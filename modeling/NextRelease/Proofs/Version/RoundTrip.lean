import NextRelease.Proofs.Text.Pieces
import NextRelease.Version.Bump

/-! Written forms of versions: a version whose numbers are short enough comes back from its written
form, and only such versions are read. -/

namespace NextRelease.Version

/-! ## Characters of written forms -/

theorem isIdentifierChar_toNat {c : Char} (h : isIdentifierChar c) :
    c.toNat = 45 ∨ 48 ≤ c.toNat ∧ c.toNat ≤ 57 ∨ 65 ≤ c.toNat ∧ c.toNat ≤ 90 ∨
      97 ≤ c.toNat ∧ c.toNat ≤ 122 := by
  obtain h | h := Bool.or_eq_true_iff.1 h
  · obtain h | h := Bool.or_eq_true_iff.1 h
    · obtain h | h := Bool.or_eq_true_iff.1 h
      · have hupper : c.val ≥ 65 ∧ c.val ≤ 90 := of_decide_eq_true h
        exact .inr (.inr (.inl hupper))
      · have hlower := Bool.and_eq_true_iff.1 h
        exact .inr (.inr (.inr ⟨of_decide_eq_true hlower.1, of_decide_eq_true hlower.2⟩))
    · have hdigit := Bool.and_eq_true_iff.1 h
      exact .inr (.inl ⟨of_decide_eq_true hdigit.1, of_decide_eq_true hdigit.2⟩)
  · exact .inl (congrArg Char.toNat (beq_iff_eq.1 h))

theorem isIdentifierChar_of_isDigit {c : Char} (h : c.isDigit) : isIdentifierChar c := by
  simp [isIdentifierChar, Char.isAlphanum, h]

theorem PreIdentifier.isIdentifierChar_of_mem {p : PreIdentifier} {c : Char}
    (h : c ∈ p.render) : isIdentifierChar c := by
  cases p with
  | number n => exact isIdentifierChar_of_isDigit (Text.isDigit_of_mem_toDigits h)
  | word cs valid =>
    simp only [isWord, Bool.and_eq_true, List.all_eq_true] at valid
    exact valid.1 c h

theorem BuildIdentifier.isIdentifierChar_of_mem {b : BuildIdentifier} {c : Char}
    (h : c ∈ b.chars) : isIdentifierChar c := by
  have valid := b.valid
  simp only [isBuildWord, Bool.and_eq_true, List.all_eq_true] at valid
  exact valid.2 c h

def coreChars (v : Version) : List Char :=
  Text.joinWith '.' [Nat.toDigits 10 v.major, Nat.toDigits 10 v.minor, Nat.toDigits 10 v.patch]

theorem render_eq (v : Version) :
    v.render = (v.coreChars ++ if v.pre.isEmpty then [] else '-' :: v.preChars) ++
      (if v.build.isEmpty then [] else '+' :: v.buildChars) := rfl

theorem mem_coreChars {v : Version} {c : Char} (h : c ∈ v.coreChars) :
    c = '.' ∨ c.isDigit := by
  refine (Text.mem_joinWith h).imp_right ?_
  rintro ⟨piece, hpiece, hc⟩
  simp only [List.mem_cons, List.not_mem_nil, or_false] at hpiece
  obtain rfl | rfl | rfl := hpiece <;> exact Text.isDigit_of_mem_toDigits hc

theorem mem_preChars {v : Version} {c : Char} (h : c ∈ v.preChars) :
    c = '.' ∨ isIdentifierChar c := by
  refine (Text.mem_joinWith h).imp_right ?_
  rintro ⟨piece, hpiece, hc⟩
  obtain ⟨p, _, rfl⟩ := List.mem_map.1 hpiece
  exact PreIdentifier.isIdentifierChar_of_mem hc

theorem mem_buildChars {v : Version} {c : Char} (h : c ∈ v.buildChars) :
    c = '.' ∨ isIdentifierChar c := by
  refine (Text.mem_joinWith h).imp_right ?_
  rintro ⟨piece, hpiece, hc⟩
  obtain ⟨b, _, rfl⟩ := List.mem_map.1 hpiece
  exact BuildIdentifier.isIdentifierChar_of_mem hc

theorem toNat_of_mem_render {v : Version} {c : Char} (h : c ∈ v.render) :
    0x2B ≤ c.toNat ∧ c.toNat ≤ 0x7A ∧ c.toNat ≠ 0x5C := by
  have hpoint {d : Char} (hd : d = '.' ∨ isIdentifierChar d) :
      0x2B ≤ d.toNat ∧ d.toNat ≤ 0x7A ∧ d.toNat ≠ 0x5C := by
    obtain rfl | hd := hd
    · decide
    · have := isIdentifierChar_toNat hd
      omega
  simp only [render_eq, List.mem_append, List.mem_ite_nil_left, List.mem_cons] at h
  obtain (h | ⟨_, rfl | h⟩) | ⟨_, rfl | h⟩ := h
  · exact hpoint ((mem_coreChars h).imp_right isIdentifierChar_of_isDigit)
  · decide
  · exact hpoint (mem_preChars h)
  · decide
  · exact hpoint (mem_buildChars h)

theorem not_isBlank_of_mem_render {v : Version} {c : Char} (h : c ∈ v.render) :
    Text.isBlank c = false := by
  have := toNat_of_mem_render h
  exact Text.not_isBlank_of_bounds (by omega) (by omega)

/-! ## Reading the parts -/

theorem PreIdentifier.read?_render (p : PreIdentifier) : read? p.render = some p := by
  cases p with
  | number n =>
    have hword : isWord (Nat.toDigits 10 n) = false := by
      simp only [isWord, Bool.and_eq_false_iff, List.any_eq_false, Bool.not_eq_true,
        Bool.not_eq_false']
      exact .inr fun c hc => Text.isDigit_of_mem_toDigits hc
    simp [read?, render, hword, Text.isNumeral_toDigits, Nat.ofDigitChars_ten_toDigits]
  | word cs valid => simp [read?, render, valid]

theorem BuildIdentifier.read?_chars (b : BuildIdentifier) : read? b.chars = some b := by
  simp [read?, b.valid]

theorem PreIdentifier.point_not_mem (p : PreIdentifier) : '.' ∉ p.render := fun h =>
  absurd (isIdentifierChar_of_mem h) (by decide)

theorem BuildIdentifier.point_not_mem (b : BuildIdentifier) : '.' ∉ b.chars := fun h =>
  absurd (isIdentifierChar_of_mem h) (by decide)

theorem readIdentifiers?_joinWith {α : Type} {read? : List Char → Option α}
    {write : α → List Char} (hread : ∀ x, read? (write x) = some x)
    (hpoint : ∀ x, '.' ∉ write x) {xs : List α} (hne : xs ≠ []) :
    readIdentifiers? read? (some (Text.joinWith '.' (xs.map write))) = some xs := by
  have hpieces : Text.splitOn '.' (Text.joinWith '.' (xs.map write)) = xs.map write := by
    refine Text.splitOn_joinWith (by simpa using hne) fun piece hpiece => ?_
    obtain ⟨x, _, rfl⟩ := List.mem_map.1 hpiece
    exact hpoint x
  rw [readIdentifiers?, hpieces]
  clear hne hpieces
  induction xs with
  | nil => rfl
  | cons x xs ih => simp [hread x, ih]

theorem cut_plus_render (v : Version) :
    Text.cut '+' v.render =
      (v.coreChars ++ if v.pre.isEmpty then [] else '-' :: v.preChars,
        if v.build.isEmpty then none else some v.buildChars) := by
  have hfront : '+' ∉ v.coreChars ++ if v.pre.isEmpty then [] else '-' :: v.preChars := by
    simp only [List.mem_append, List.mem_ite_nil_left, List.mem_cons]
    rintro (h | ⟨_, h | h⟩)
    · exact absurd (mem_coreChars h) (by decide)
    · exact absurd h (by decide)
    · exact absurd (mem_preChars h) (by decide)
  rw [render_eq]
  cases v.build.isEmpty with
  | true => exact (congrArg _ (List.append_nil _)).trans (Text.cut_eq_self hfront)
  | false => exact Text.cut_append_cons hfront _

theorem cut_hyphen_front (v : Version) :
    Text.cut '-' (v.coreChars ++ if v.pre.isEmpty then [] else '-' :: v.preChars) =
      (v.coreChars, if v.pre.isEmpty then none else some v.preChars) := by
  have hcore : '-' ∉ v.coreChars := fun h => absurd (mem_coreChars h) (by decide)
  split
  · rw [List.append_nil, Text.cut_eq_self hcore]
  · rw [Text.cut_append_cons hcore]

theorem splitOn_coreChars (v : Version) :
    Text.splitOn '.' v.coreChars =
      [Nat.toDigits 10 v.major, Nat.toDigits 10 v.minor, Nat.toDigits 10 v.patch] := by
  refine Text.splitOn_joinWith (List.cons_ne_nil _ _) fun piece hpiece h => ?_
  simp only [List.mem_cons, List.not_mem_nil, or_false] at hpiece
  obtain rfl | rfl | rfl := hpiece <;>
    exact absurd (Text.isDigit_of_mem_toDigits h) (by decide)

/-! ## Reading what was written -/

theorem read?_render {v : Version} (h : v.isPrintable) : read? v.render = some v := by
  simp only [isPrintable, Bool.and_eq_true] at h
  have hpre : readIdentifiers? PreIdentifier.read? (if v.pre.isEmpty then none else some v.preChars) =
      some v.pre := by
    split
    · next hempty => simp [readIdentifiers?, List.isEmpty_iff.1 hempty]
    · next hne =>
      exact readIdentifiers?_joinWith PreIdentifier.read?_render PreIdentifier.point_not_mem
        (by simpa using hne)
  have hbuild : readIdentifiers? BuildIdentifier.read?
      (if v.build.isEmpty then none else some v.buildChars) = some v.build := by
    split
    · next hempty => simp [readIdentifiers?, List.isEmpty_iff.1 hempty]
    · next hne =>
      exact readIdentifiers?_joinWith BuildIdentifier.read?_chars BuildIdentifier.point_not_mem
        (by simpa using hne)
  simp only [read?, cut_plus_render, cut_hyphen_front, splitOn_coreChars, hpre, hbuild,
    Text.readNumeral?_toDigits h.1.1, Text.readNumeral?_toDigits h.1.2,
    Text.readNumeral?_toDigits h.2]
  rfl

theorem dropMark_render (v : Version) : dropMark v.render = v.render := by
  obtain ⟨c, cs, hcs⟩ := List.exists_cons_of_ne_nil (Nat.toDigits_ne_nil (b := 10) (n := v.major))
  have hc : c.isDigit := Text.isDigit_of_mem_toDigits (n := v.major) (hcs ▸ List.mem_cons_self)
  have hmark : ¬(c = 'v' ∨ c = '=') := by
    rintro (rfl | rfl) <;> exact absurd hc (by decide)
  rw [render, hcs]
  simp [dropMark, hmark]

theorem parse?_render {v : Version} (h : v.isPrintable) :
    parse? (String.ofList v.render) = some v := by
  have htrim : Text.trimChars v.render = v.render :=
    Text.trimBy_eq_self fun c hc => not_isBlank_of_mem_render hc
  rw [parse?, String.toList_ofList, htrim, dropMark_render, read?_render h]

theorem isPrintable_of_read? {cs : List Char} {v : Version} (h : read? cs = some v) :
    v.isPrintable := by
  simp only [read?] at h
  split at h
  · simp only [Option.bind_eq_bind, Option.bind_eq_some_iff, Option.pure_def,
      Option.some.injEq] at h
    obtain ⟨m, hm, n, hn, p, hp, pre, _, build, _, rfl⟩ := h
    simp [isPrintable, Text.hasNumeral_of_readNumeral? hm, Text.hasNumeral_of_readNumeral? hn,
      Text.hasNumeral_of_readNumeral? hp]
  · cases h

theorem isPrintable_of_parse? {s : String} {v : Version} (h : parse? s = some v) :
    v.isPrintable := isPrintable_of_read? h

theorem isPrintable_latest {v : Version} {declared : Option Version} (hv : v.isPrintable)
    (hdeclared : ∀ w ∈ declared, w.isPrintable) : (v.latest declared).isPrintable := by
  cases declared with
  | none => exact hv
  | some w =>
    simp only [latest]
    split
    · exact hdeclared w rfl
    · exact hv

end NextRelease.Version
