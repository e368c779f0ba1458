import NextRelease.Proofs.Package.Manifest
import NextRelease.Witness

/-! The names of an entry point: the keys under which it is exported, its key in a witness and the
module that a witness imports for it. Reading a key and writing one undo each other on the keys in
canonical form, and no two entry points share a written name. -/

namespace NextRelease.Witness

open Manifest

/-! ## Keys -/

theorem trimSlashes_of_isPlain {entry : Text} (h : IsPlain entry) : trimSlashes entry = entry := by
  have keep {t : Text} (ht : t.head? ≠ some (.scalar '/')) :
      t.dropWhile (· == .scalar '/') = t := by
    cases t with
    | nil => rfl
    | cons p t => exact List.dropWhile_cons_of_neg (by simpa using ht)
  have hend : entry.reverse.head? ≠ some (.scalar '/') := by
    rw [List.head?_reverse]
    exact h.last
  rw [trimSlashes, keep h.head, keep hend, List.reverse_reverse]

/-- The keys in canonical form: that of the root, and those of a subpath that is a plain name. -/
inductive IsCanonical : Text → Prop
  | root : IsCanonical (Text.ofString ".")
  | subpath {entry : Text} : entry ≠ [] → IsPlain entry → IsCanonical (Text.ofString "./" ++ entry)

theorem entryKey_of_ne_nil {entry : Text} (h : entry ≠ []) :
    entryKey entry = Text.ofString "./" ++ entry := by
  cases entry with
  | nil => exact absurd rfl h
  | cons p entry => rfl

theorem isCanonical_entryKey {entry : Text} (h : IsPlain entry) : IsCanonical (entryKey entry) := by
  by_cases hne : entry = []
  · subst hne
    exact .root
  · rw [entryKey_of_ne_nil hne]
    exact .subpath hne h

theorem entryOfKey?_entryKey {entry : Text} (h : IsPlain entry) :
    entryOfKey? (entryKey entry) = some entry := by
  by_cases hne : entry = []
  · subst hne
    rfl
  · have hstar : (Text.ofString "./" ++ entry).contains (.scalar '*') = false := by
      simp [Text.ofString, Text.ofChars, h.star]
    have hlong : ¬(Text.ofString "./" ++ entry = Text.ofString "." ∨
        Text.ofString "./" ++ entry = Text.ofString "./") := by
      simp [Text.ofString, Text.ofChars, hne]
    rw [entryKey_of_ne_nil hne]
    unfold entryOfKey?
    rw [hstar, if_neg Bool.false_ne_true, if_neg hlong]
    exact congrArg some (trimSlashes_of_isPlain h)

theorem map_entryKey_eq_some {key : Text} :
    (entryOfKey? key).map entryKey = some key ↔ IsCanonical key := by
  constructor
  · intro h
    obtain ⟨entry, hentry, rfl⟩ := Option.map_eq_some_iff.1 h
    exact isCanonical_entryKey (isPlain_entryOfKey? hentry)
  · intro h
    cases h with
    | root => rfl
    | subpath hne hplain =>
      rw [← entryKey_of_ne_nil hne, entryOfKey?_entryKey hplain, Option.map_some]

theorem entryKey_injective : Function.Injective entryKey := by
  intro entry entry' heq
  unfold entryKey at heq
  split at heq
  · next hempty =>
    split at heq
    · next hempty' => rw [List.isEmpty_iff.1 hempty, List.isEmpty_iff.1 hempty']
    · exact absurd (congrArg List.length heq) (by simp [Text.ofString, Text.ofChars])
  · split at heq
    · exact absurd (congrArg List.length heq) (by simp [Text.ofString, Text.ofChars])
    · exact List.append_cancel_left heq

/-! ## Modules -/

theorem moduleSpecifier_injective :
    Function.Injective fun named : Revision × Text => moduleSpecifier named.1.name named.2 := by
  -- The names of the two packages differ before the place where one of them could end.
  have hletter (revision : Revision) (entry : Text) :
      (moduleSpecifier revision.name entry)[14]? = (Text.ofString revision.name).head? := by
    unfold moduleSpecifier
    cases revision <;> cases entry <;> rfl
  have hsame (role : String) : Function.Injective (moduleSpecifier role) := by
    intro entry entry' heq
    unfold moduleSpecifier at heq
    cases entry <;> cases entry' <;> simp_all
  rintro ⟨revision, entry⟩ ⟨revision', entry'⟩ heq
  have hfirst := congrArg (·[14]?) heq
  simp only [hletter] at hfirst
  obtain rfl : revision = revision' := by
    revert hfirst
    cases revision <;> cases revision' <;> decide
  exact congrArg (Prod.mk revision) (hsame revision.name heq)

/-- What is read from a key is a plain name, and it is read again from the key that is written for
it; the keys that are written again as they were are those in canonical form. Entry points that
differ have different keys, and no two of them, in whichever revision, are imported by one name. -/
theorem entryKey_translates :
    (∀ key entry, entryOfKey? key = some entry →
      IsPlain entry ∧ entryOfKey? (entryKey entry) = some entry) ∧
    (∀ key, (entryOfKey? key).map entryKey = some key ↔ IsCanonical key) ∧
    Function.Injective entryKey ∧
    Function.Injective fun named : Revision × Text => moduleSpecifier named.1.name named.2 := by
  refine ⟨fun key entry h => ?_, fun _ => map_entryKey_eq_some, entryKey_injective,
    moduleSpecifier_injective⟩
  have hplain := isPlain_entryOfKey? h
  exact ⟨hplain, entryOfKey?_entryKey hplain⟩

/-- Only the first `./` of a key and the slashes at the two ends of what follows are dropped. -/
theorem entryKey_translates_dotted :
    let key := Text.ofString ".///./a//b/"
    let entry := Text.ofString "./a//b"
    entryOfKey? key = some entry ∧ IsPlain entry ∧ entryOfKey? (entryKey entry) = some entry ∧
      (entryOfKey? key).map entryKey ≠ some key ∧ ¬IsCanonical key := by
  intro key entry
  have hread : entryOfKey? key = some entry := by decide
  have hother : (entryOfKey? key).map entryKey ≠ some key := by decide
  obtain ⟨hback, hcanonical, _⟩ := entryKey_translates
  obtain ⟨hplain, hagain⟩ := hback key entry hread
  exact ⟨hread, hplain, hagain, hother, mt (hcanonical key).2 hother⟩

end NextRelease.Witness
