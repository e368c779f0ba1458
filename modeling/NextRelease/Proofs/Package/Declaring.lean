import NextRelease.Proofs.Files.Sharing
import NextRelease.Proofs.Json.Reading
import NextRelease.Proofs.Json.RoundTrip
import NextRelease.Proofs.Package.Clone
import NextRelease.Proofs.Version.Table

/-! Manifests that declare a version. The shortest ones are read as deeply nested as any. One that a
new version was written into is read as the manifest that it was made of, with the version set; only
numbers with a point or an exponent may come back as others. -/

/-! ## The shortest manifests -/

namespace NextRelease

namespace Manifest

/-- The shortest manifest that declares a version, or none. -/
def declaring : Option Version → String
  | none => "\x7b\x7d"
  | some v => String.ofList ('\x7b' :: '\x22' :: ("version".toList ++ '\x22' :: ':' :: '\x22' ::
      (v.render ++ ['\x22', '\x7d'])))

theorem isPlain_of_mem_render {v : Version} {c : Char} (h : c ∈ v.render) : Json.IsPlain c := by
  have := Version.toNat_of_mem_render h
  refine ⟨?_, ?_, by omega⟩
  · rintro rfl
    revert this
    decide
  · rintro rfl
    revert this
    decide

theorem isPlain_of_mem_version : ∀ c ∈ "version".toList, Json.IsPlain c := by
  simp [Json.IsPlain]

theorem toList_declaring (v : Version) :
    (declaring (some v)).toList = '\x7b' :: '\x22' :: ("version".toList ++ '\x22' :: ':' ::
      '\x22' :: (v.render ++ ['\x22', '\x7d'])) := String.toList_ofList

def fields : Option Version → Fields
  | none => []
  | some v => [(Text.ofString "version", .str (Text.ofChars v.render))]

theorem declares_fields {version : Option Version} (h : ∀ v ∈ version, v.isPrintable) :
    Declares (fields version) version := by
  cases version with
  | none => exact .absent rfl
  | some v =>
    refine .text (by rw [fields, Fields.get?, if_pos rfl]) ?_ (Version.parse?_render (h v rfl))
    rw [Text.toString?, Text.toChars?_ofChars, Option.map_some]

theorem parse_declaring (version : Option Version) (source : String) (depth : Nat) :
    parse (declaring version) source (depth + 1) = .ok (fields version) := by
  have hread : Json.read (declaring version).toList (depth + 1) = .ok (.obj (fields version)) := by
    cases version with
    | none => rfl
    | some v =>
      rw [toList_declaring]
      exact Json.read_field depth isPlain_of_mem_version fun _ => isPlain_of_mem_render
  rw [parse, hread]

theorem decode?_declaring (version : Option Version) :
    Text.decode? (declaring version).toUTF8 = some (declaring version) := by
  refine Text.decode?_toUTF8 ?_
  cases version with
  | none => decide
  | some v =>
    have hrender : '\r' ∉ v.render := fun hmem => absurd (Version.toNat_of_mem_render hmem) (by decide)
    simp only [toList_declaring, List.mem_cons, List.mem_append, not_or]
    simp [hrender]

theorem readable_declaring {version : Option Version} {depth : Nat}
    (h : ∀ v ∈ version, v.isPrintable) (hdepth : 1 < depth) :
    Readable (declaring version).toUTF8 version depth := by
  obtain ⟨depth, rfl⟩ : ∃ n, depth = n + 2 := ⟨depth - 2, by omega⟩
  exact ⟨declaring version, fields version, decode?_declaring version, declares_fields h,
    parse_declaring version _ _, parse_declaring version _ _⟩

theorem eq_fields_of_parse {version : Option Version} {source : String} {depth : Nat}
    {manifest : Fields} (h : parse (declaring version) source depth = .ok manifest) :
    manifest = fields version := by
  have hread := read_of_parse h
  cases depth with
  | zero =>
    cases version with
    | none => cases hread
    | some v =>
      rw [toList_declaring] at hread
      cases hread
  | succ depth =>
    exact Json.obj.inj
      (Except.ok.inj (hread.symm.trans (read_of_parse (parse_declaring version source depth))))

theorem held_declaring {version : Option Version} {tree : FileTree} {route : Route} (depth : Nat)
    (h : tree.read route = .ok (declaring version).toUTF8) :
    HeldBy (fields version) tree route (depth + 1) :=
  ⟨_, _, "", h, decode?_declaring version, parse_declaring version _ depth⟩

end Manifest

end NextRelease

/-! ## Manifests with a new version -/

namespace NextRelease.Manifest

open Json

variable {manifest : Fields} {tree tree' : FileTree} {route : Route} {depth : Nat}
  {version text : String}

theorem eq_ofChars_of_toString? {t : Text} (h : t.toString? = some text) :
    t = Text.ofChars text.toList := by
  obtain ⟨cs, hcs, rfl⟩ := Option.map_eq_some_iff.1 h
  rw [String.toList_ofList]
  exact Text.eq_ofChars_of_toChars? hcs

def updated (manifest : Fields) (version : String) : Fields :=
  rereadFields (manifest.set (Text.ofString "version") (.str (Text.ofString version)))

theorem isWhole_fields (version : Option Version) : IsWhole (.obj (fields version)) := by
  refine .obj fun field hfield => ?_
  cases version with
  | none => cases hfield
  | some v =>
    rw [List.mem_singleton.1 hfield]
    exact .str _

theorem updated_of_isWhole (h : IsWhole (.obj manifest)) :
    updated manifest version =
      manifest.set (Text.ofString "version") (.str (Text.ofString version)) := by
  have hsame : rereadFields manifest = manifest := by
    have hreread := h.reread
    rw [reread] at hreread
    exact Json.obj.inj hreread
  rw [updated, rereadFields_set, hsame]

theorem declares_updated {v : Version} (h : v.print? = some version) :
    Declares (updated manifest version) (some v) := by
  have hget : (updated manifest version).get? (Text.ofString "version") =
      some (.str (Text.ofString version)) := by
    rw [updated, rereadFields_set, Fields.get?_set, if_pos rfl]
  exact .text hget (Text.toString?_ofString version) (Version.parse?_of_print? h)

theorem HeldBy.written (h : HeldBy manifest tree route depth)
    (htext : (withVersion manifest version).toString? = some text)
    (hread : tree'.read route = .ok text.toUTF8) :
    HeldBy (updated manifest version) tree' route depth := by
  obtain ⟨_, before, source, _, _, hparse⟩ := h
  have hfits : Fits depth (.obj manifest) := fits_of_read (read_of_parse hparse)
  obtain ⟨hreads, hreturn⟩ := read_document (hfits.set (Text.ofString "version") _)
    (eq_ofChars_of_toString? htext)
  refine ⟨text.toUTF8, text, source, hread, Text.decode?_toUTF8 hreturn, ?_⟩
  rw [parse, hreads]
  rfl

theorem HeldBy.find? (h : HeldBy manifest tree route depth) : ∃ content, tree.find? route = some (.file content) := by
  obtain ⟨bytes, text, source, hread, hdecode, hparse⟩ := h
  obtain ⟨goal, hlocate, hget⟩ := FileTree.bind_eq_ok.1 hread
  split at hget
  · next content hfile =>
    refine ⟨content, ?_⟩
    rw [FileTree.find?, hlocate]
    exact hfile
  · cases hget
  · cases hget
    obtain rfl : text = "" := Option.some.inj (hdecode.symm.trans (by decide))
    cases read_of_parse hparse
  · cases hget

theorem HeldBy.of_write (h : HeldBy manifest tree route depth) (hsharing : tree.SharesAlike)
    (htext : (withVersion manifest version).toString? = some text)
    (hwrite : tree.write route text.toUTF8 = .ok tree') :
    HeldBy (updated manifest version) tree' route depth := by
  obtain ⟨_, hfile⟩ := h.find?
  exact h.written htext (hsharing.read_write hfile hwrite)

end NextRelease.Manifest
