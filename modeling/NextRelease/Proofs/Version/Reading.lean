import Mathlib.Data.List.Induction
import Mathlib.Data.Set.List
import NextRelease.Proofs.Text.Listing
import NextRelease.Proofs.Version.RoundTrip

/-! Only written forms of versions are read, so what is read has neither blanks in it nor, apart from
one mark in front, another spelling. The written forms are the texts of a grammar. -/

namespace NextRelease

namespace Text

theorem toDigits_digit {c : Char} (h : c.isDigit) :
    c.toNat - '0'.toNat < 10 ∧ Nat.toDigits 10 (c.toNat - '0'.toNat) = [c] := by
  have hbounds : 48 ≤ c.toNat ∧ c.toNat ≤ 57 := by
    have hdigit := Bool.and_eq_true_iff.1 h
    exact ⟨of_decide_eq_true hdigit.1, of_decide_eq_true hdigit.2⟩
  have hzero : '0'.toNat = 48 := rfl
  have hlt : c.toNat - '0'.toNat < 10 := by omega
  have hnat := Nat.toNat_digitChar_of_lt_ten hlt
  have hchar : (c.toNat - '0'.toNat).digitChar = c := Char.toNat_inj.1 (by omega)
  exact ⟨hlt, by rw [Nat.toDigits_of_lt_base hlt, hchar]⟩

theorem toDigits_ofDigitChars {cs : List Char} (h : isNumeral cs) :
    Nat.toDigits 10 (Nat.ofDigitChars 10 cs 0) = cs := by
  obtain ⟨hdigits, hfirst⟩ := Bool.and_eq_true_iff.1 (isNumeral.eq_def cs ▸ h)
  have hfront (front : List Char) (hne : front ≠ []) (hfore : front <+: cs)
      (hmore : cs.head? ≠ some '0') : Nat.toDigits 10 (Nat.ofDigitChars 10 front 0) = front := by
    induction front using List.reverseRecOn with
    | nil => exact absurd rfl hne
    | append_singleton front c ih =>
      have hc : c.isDigit := List.all_eq_true.1 hdigits c (hfore.subset (by simp))
      obtain ⟨hlt, hlast⟩ := toDigits_digit hc
      rw [Nat.ofDigitChars_append, Nat.ofDigitChars_cons, Nat.ofDigitChars_nil]
      by_cases hnil : front = []
      · subst hnil
        simpa using hlast
      · have hshorter := ih hnil ((List.prefix_append front [c]).trans hfore)
        have hpos : 0 < Nat.ofDigitChars 10 front 0 := by
          rw [Nat.pos_iff_ne_zero]
          intro hzero
          have hfront : front = ['0'] := by
            rw [← hshorter, hzero, Nat.toDigits_zero]
          obtain ⟨rest, hrest⟩ := hfore
          rw [← hrest, hfront] at hmore
          exact hmore rfl
        rw [← Nat.toDigits_append_toDigits (by decide) hpos hlt, hshorter, hlast]
  cases cs with
  | nil => cases hfirst
  | cons c cs =>
    cases cs with
    | nil =>
      have hc : c.isDigit := List.all_eq_true.1 hdigits c List.mem_cons_self
      rw [Nat.ofDigitChars_cons, Nat.ofDigitChars_nil, Nat.mul_zero, Nat.zero_add,
        (toDigits_digit hc).2]
    | cons d ds =>
      exact hfront _ (List.cons_ne_nil _ _) (List.prefix_refl _) (by simpa using hfirst)

theorem eq_toDigits_of_readNumeral? {cs : List Char} {n : Nat} (h : readNumeral? cs = some n) :
    cs = Nat.toDigits 10 n := by
  simp only [readNumeral?, Option.ite_none_right_eq_some, Option.some.injEq] at h
  obtain ⟨⟨hnumeral, _⟩, rfl⟩ := h
  exact (toDigits_ofDigitChars hnumeral).symm

theorem eq_of_cut {sep : Char} {cs front : List Char} {rest : Option (List Char)}
    (h : cut sep cs = (front, rest)) :
    cs = front ++ rest.elim [] (sep :: ·) := by
  have hsplit := List.takeWhile_append_dropWhile (p := (· != sep)) (l := cs)
  unfold cut at h
  split at h
  · cases h
    simp
  · next first rest' hdrop =>
    cases h
    have hfirst : first = sep := by
      have hnot := List.head?_dropWhile_not (· != sep) cs
      rw [hdrop] at hnot
      simpa using hnot
    rw [hdrop, hfirst] at hsplit
    exact hsplit.symm

end Text

namespace Version

theorem PreIdentifier.render_of_read? {cs : List Char} {p : PreIdentifier}
    (h : read? cs = some p) : p.render = cs := by
  unfold read? at h
  split at h
  · cases h
    rfl
  · split at h
    · next hnumeral =>
      cases h
      exact Text.toDigits_ofDigitChars hnumeral
    · cases h

theorem BuildIdentifier.chars_of_read? {cs : List Char} {b : BuildIdentifier}
    (h : read? cs = some b) : b.chars = cs := by
  unfold read? at h
  split at h
  · cases h
    rfl
  · cases h

theorem eq_map_of_mapM {α : Type} {read? : List Char → Option α} {write : α → List Char}
    (hread : ∀ {cs x}, read? cs = some x → write x = cs) {pieces : List (List Char)} {xs : List α}
    (h : pieces.mapM read? = some xs) : pieces = xs.map write := by
  induction pieces generalizing xs with
  | nil =>
    cases h
    rfl
  | cons piece pieces ih =>
    simp only [List.mapM_cons, Option.bind_eq_bind, Option.bind_eq_some_iff, Option.pure_def,
      Option.some.injEq] at h
    obtain ⟨x, hx, rest, hrest, rfl⟩ := h
    rw [List.map_cons, hread hx, ← ih hrest]

theorem of_readIdentifiers? {α : Type} {read? : List Char → Option α} {write : α → List Char}
    (hread : ∀ {cs x}, read? cs = some x → write x = cs) {part : Option (List Char)} {xs : List α}
    (h : readIdentifiers? read? part = some xs) :
    part = if xs.isEmpty then none else some (Text.joinWith '.' (xs.map write)) := by
  cases part with
  | none =>
    cases h
    rfl
  | some cs =>
    have hsplit := eq_map_of_mapM hread h
    have hne : xs.isEmpty = false := by
      rw [List.isEmpty_eq_false_iff]
      rintro rfl
      exact Text.splitOn_ne_nil '.' cs hsplit
    rw [hne, if_neg Bool.false_ne_true, ← hsplit, Text.joinWith_splitOn]

theorem render_of_read? {cs : List Char} {v : Version} (h : read? cs = some v) : cs = v.render := by
  unfold read? at h
  cases hbuild : Text.cut '+' cs with
  | mk front build =>
    cases hpre : Text.cut '-' front with
    | mk core pre =>
      simp only [hbuild, hpre] at h
      split at h
      · next major minor patch hcore =>
        simp only [Option.bind_eq_bind, Option.bind_eq_some_iff, Option.pure_def,
          Option.some.injEq] at h
        obtain ⟨m, hm, n, hn, p, hp, pres, hpres, builds, hbuilds, rfl⟩ := h
        have hcoreChars := (Text.joinWith_splitOn '.' core).symm
        rw [hcore, Text.eq_toDigits_of_readNumeral? hm, Text.eq_toDigits_of_readNumeral? hn,
          Text.eq_toDigits_of_readNumeral? hp] at hcoreChars
        have hpre' := of_readIdentifiers? PreIdentifier.render_of_read? hpres
        have hbuild' := of_readIdentifiers? BuildIdentifier.chars_of_read? hbuilds
        rw [Text.eq_of_cut hbuild, Text.eq_of_cut hpre, hcoreChars, hpre', hbuild', render_eq]
        cases pres <;> cases builds <;> rfl
      · cases h

theorem read?_eq_some_iff {cs : List Char} {v : Version} :
    read? cs = some v ↔ v.isPrintable ∧ cs = v.render := by
  constructor
  · intro h
    exact ⟨isPrintable_of_read? h, render_of_read? h⟩
  · rintro ⟨hprintable, rfl⟩
    exact read?_render hprintable

theorem render_ne_nil (v : Version) : v.render ≠ [] := by
  rw [render]
  simp [Nat.toDigits_ne_nil]

theorem dropMark_eq_render_iff {cs : List Char} {v : Version} :
    dropMark cs = v.render ↔ ∃ mark ∈ ["", "v", "="], cs = mark.toList ++ v.render := by
  constructor
  · intro h
    cases cs with
    | nil => exact absurd h.symm v.render_ne_nil
    | cons c cs =>
      rw [dropMark] at h
      split at h
      · next hmark =>
        obtain rfl | rfl := hmark
        · exact ⟨"v", by simp, by rw [h]; rfl⟩
        · exact ⟨"=", by simp, by rw [h]; rfl⟩
      · exact ⟨"", by simp, h⟩
  · rintro ⟨mark, hmark, rfl⟩
    simp only [List.mem_cons, List.not_mem_nil, or_false] at hmark
    obtain rfl | rfl | rfl := hmark
    · exact dropMark_render v
    · rfl
    · rfl

theorem parse?_eq_some_iff {s : String} {v : Version} :
    parse? s = some v ↔
      v.isPrintable ∧ ∃ mark ∈ ["", "v", "="], Text.trim s = mark ++ String.ofList v.render := by
  have htrim (mark : String) : Text.trim s = mark ++ String.ofList v.render ↔
      Text.trimChars s.toList = mark.toList ++ v.render := by
    rw [Text.trim, ← String.toList_inj, String.toList_append, String.toList_ofList,
      String.toList_ofList]
  rw [parse?, read?_eq_some_iff, dropMark_eq_render_iff]
  simp only [htrim]

theorem trim_of_parse? {s : String} {v : Version} (h : parse? s = some v) :
    Text.IsWord (Text.trim s) := by
  obtain ⟨_, mark, hmark, htrim⟩ := parse?_eq_some_iff.1 h
  have hblank (c : Char) (hc : c ∈ mark.toList) : Text.isBlank c = false := by
    simp only [List.mem_cons, List.not_mem_nil, or_false] at hmark
    obtain rfl | rfl | rfl := hmark
    · cases hc
    · obtain rfl : c = 'v' := by simpa using hc
      decide
    · obtain rfl : c = '=' := by simpa using hc
      decide
  rw [htrim]
  refine ⟨fun hempty => ?_, fun c hc => ?_⟩
  · have hnil := congrArg String.toList hempty
    rw [String.toList_append, String.toList_ofList] at hnil
    exact v.render_ne_nil (List.append_eq_nil_iff.1 hnil).2
  · rw [String.toList_append, String.toList_ofList, List.mem_append] at hc
    exact hc.elim (hblank c) not_isBlank_of_mem_render

theorem parse?_trim (s : String) : parse? (Text.trim s) = parse? s := by
  have hchars : Text.trimChars (Text.trim s).toList = Text.trimChars s.toList := by
    rw [Text.trim, String.toList_ofList]
    exact Text.trimBy_trimBy _ _
  rw [parse?, hchars, parse?]

/-! ## The grammar -/

def IsShortNumeral (cs : List Char) : Prop := Text.isNumeral cs ∧ cs.length ≤ Text.digitLimit

def IsPreText (cs : List Char) : Prop :=
  cs ≠ [] ∧ (∀ c ∈ cs, isIdentifierChar c) ∧ ((∀ c ∈ cs, c.isDigit) → Text.isNumeral cs)

def IsBuildText (cs : List Char) : Prop := cs ≠ [] ∧ ∀ c ∈ cs, isIdentifierChar c

inductive IsOptional (mark : Char) (isIdentifier : List Char → Prop) : List Char → Prop
  | absent : IsOptional mark isIdentifier []
  | given {pieces : List (List Char)} : pieces ≠ [] → (∀ piece ∈ pieces, isIdentifier piece) →
      IsOptional mark isIdentifier (mark :: Text.joinWith '.' pieces)

/-- The grammar of versions. -/
inductive IsWritten : List Char → Prop
  | parts {major minor patch pre build : List Char} : IsShortNumeral major → IsShortNumeral minor →
      IsShortNumeral patch → IsOptional '-' IsPreText pre → IsOptional '+' IsBuildText build →
        IsWritten (Text.joinWith '.' [major, minor, patch] ++ pre ++ build)

theorem isShortNumeral_iff {cs : List Char} :
    IsShortNumeral cs ↔ ∃ n, Text.hasNumeral n ∧ Nat.toDigits 10 n = cs := by
  constructor
  · rintro ⟨hnumeral, hlength⟩
    have hdigits : cs.all Char.isDigit := (Bool.and_eq_true_iff.1 hnumeral).1
    exact ⟨_, Text.hasNumeral_ofDigitChars hdigits hlength, Text.toDigits_ofDigitChars hnumeral⟩
  · rintro ⟨n, hshort, rfl⟩
    exact ⟨Text.isNumeral_toDigits n, of_decide_eq_true hshort⟩

theorem isPreText_iff {cs : List Char} : IsPreText cs ↔ ∃ p : PreIdentifier, p.render = cs := by
  constructor
  · rintro ⟨hne, hchars, hnumeral⟩
    by_cases hdigits : ∀ c ∈ cs, c.isDigit
    · exact ⟨.number _, Text.toDigits_ofDigitChars (hnumeral hdigits)⟩
    · have hword : isWord cs := by
        simp only [isWord, Bool.and_eq_true, List.all_eq_true, List.any_eq_true]
        simp only [not_forall] at hdigits
        obtain ⟨c, hc, hother⟩ := hdigits
        exact ⟨hchars, c, hc, by simpa using hother⟩
      exact ⟨.word cs hword, rfl⟩
  · rintro ⟨p, rfl⟩
    refine ⟨?_, fun c hc => PreIdentifier.isIdentifierChar_of_mem hc, ?_⟩
    · cases p with
      | number n => exact Nat.toDigits_ne_nil
      | word cs valid =>
        rintro rfl
        exact absurd valid (by decide)
    · intro hdigits
      cases p with
      | number n => exact Text.isNumeral_toDigits n
      | word cs valid =>
        simp only [isWord, Bool.and_eq_true, List.any_eq_true] at valid
        obtain ⟨_, c, hc, hother⟩ := valid
        exact absurd (hdigits c hc) (by simpa using hother)

theorem isBuildText_iff {cs : List Char} :
    IsBuildText cs ↔ ∃ b : BuildIdentifier, b.chars = cs := by
  have hvalid : isBuildWord cs ↔ IsBuildText cs := by
    simp [isBuildWord, IsBuildText]
  constructor
  · intro h
    exact ⟨⟨cs, hvalid.2 h⟩, rfl⟩
  · rintro ⟨b, rfl⟩
    exact hvalid.1 b.valid

theorem isOptional_iff {α : Type} {write : α → List Char} {isIdentifier : List Char → Prop}
    (hwrite : ∀ cs, isIdentifier cs ↔ ∃ x, write x = cs) {mark : Char} {cs : List Char} :
    IsOptional mark isIdentifier cs ↔ ∃ xs : List α,
      cs = if xs.isEmpty then [] else mark :: Text.joinWith '.' (xs.map write) := by
  constructor
  · intro h
    cases h with
    | absent => exact ⟨[], rfl⟩
    | given hne hpieces =>
      obtain ⟨xs, rfl⟩ : _ ∈ Set.range (List.map write) := by
        rw [Set.range_list_map]
        exact fun piece hpiece => (hwrite piece).1 (hpieces piece hpiece)
      exact ⟨xs, by rw [if_neg (by simpa using hne)]⟩
  · rintro ⟨xs, rfl⟩
    split
    · exact .absent
    · next hne =>
      refine .given (by simpa using hne) fun piece hpiece => ?_
      obtain ⟨x, _, rfl⟩ := List.mem_map.1 hpiece
      exact (hwrite _).2 ⟨x, rfl⟩

theorem isWritten_iff {cs : List Char} :
    IsWritten cs ↔ ∃ v : Version, v.isPrintable ∧ v.render = cs := by
  constructor
  · intro h
    cases h with
    | parts hmajor hminor hpatch hpre hbuild =>
      obtain ⟨major, hshort, rfl⟩ := isShortNumeral_iff.1 hmajor
      obtain ⟨minor, hshort', rfl⟩ := isShortNumeral_iff.1 hminor
      obtain ⟨patch, hshort'', rfl⟩ := isShortNumeral_iff.1 hpatch
      obtain ⟨pre, rfl⟩ := (isOptional_iff fun _ => isPreText_iff).1 hpre
      obtain ⟨build, rfl⟩ := (isOptional_iff fun _ => isBuildText_iff).1 hbuild
      have hprintable : isPrintable ⟨major, minor, patch, pre, build⟩ := by
        simp [isPrintable, hshort, hshort', hshort'']
      exact ⟨_, hprintable, rfl⟩
  · rintro ⟨v, hprintable, rfl⟩
    simp only [isPrintable, Bool.and_eq_true] at hprintable
    obtain ⟨⟨hmajor, hminor⟩, hpatch⟩ := hprintable
    have hpre : IsOptional '-' IsPreText (if v.pre.isEmpty then [] else '-' :: v.preChars) :=
      (isOptional_iff fun _ => isPreText_iff).2 ⟨v.pre, rfl⟩
    have hbuild :
        IsOptional '+' IsBuildText (if v.build.isEmpty then [] else '+' :: v.buildChars) :=
      (isOptional_iff fun _ => isBuildText_iff).2 ⟨v.build, rfl⟩
    exact .parts (isShortNumeral_iff.2 ⟨_, hmajor, rfl⟩) (isShortNumeral_iff.2 ⟨_, hminor, rfl⟩)
      (isShortNumeral_iff.2 ⟨_, hpatch, rfl⟩) hpre hbuild

theorem eq_of_render_eq {v w : Version} (hv : v.isPrintable) (hw : w.isPrintable)
    (h : String.ofList v.render = String.ofList w.render) : v = w := by
  have hparse := parse?_render hv
  rw [h, parse?_render hw] at hparse
  exact (Option.some.inj hparse).symm

/-- A text is read as a version with short numbers exactly if, apart from the blanks around it, it is
the written form of this version, alone or behind one `v` or `=`. The written forms are the texts of
the grammar; each belongs to one version, is read as it, and is the normal form of all texts that
are. -/
theorem parse?_accepts_written :
    (∀ (s : String) (v : Version), parse? s = some v ↔
      v.isPrintable ∧ ∃ mark ∈ ["", "v", "="], Text.trim s = mark ++ String.ofList v.render) ∧
    (∀ cs, IsWritten cs ↔ ∃ v : Version, v.isPrintable ∧ v.render = cs) ∧
    (∀ v w : Version, v.isPrintable → w.isPrintable →
      String.ofList v.render = String.ofList w.render → v = w) ∧
    (∀ v : Version, v.isPrintable → parse? (String.ofList v.render) = some v) ∧
    ∀ (s : String) (v : Version), parse? s = some v →
      (parse? s).bind print? = some (String.ofList v.render) := by
  refine ⟨fun _ _ => parse?_eq_some_iff, fun _ => isWritten_iff, fun _ _ => eq_of_render_eq,
    fun _ => parse?_render, ?_⟩
  intro s v h
  simp [h, print?, isPrintable_of_parse? h]

end Version

end NextRelease
