import Mathlib.Algebra.Group.Nat.Defs
import Mathlib.Data.List.DropRight
import NextRelease.Text.Basic

/-! Texts taken apart and put together again: pieces between separators, lines, numerals, and texts
without blanks at their ends. -/

namespace NextRelease.Text

section

-- The equations of these definitions are derived here, once for all proofs that use them.
attribute [local simp] splitOn joinWith cut charLines isNumeral trimBy

end

/-! ## Pieces -/

theorem splitOn_eq_self {sep : Char} {cs : List Char} (h : sep ∉ cs) : splitOn sep cs = [cs] := by
  induction cs with
  | nil => rfl
  | cons c cs ih =>
    rw [List.mem_cons, not_or] at h
    simp [splitOn, Ne.symm h.1, ih h.2]

theorem splitOn_append_cons {sep : Char} {piece : List Char} (h : sep ∉ piece) (rest : List Char) :
    splitOn sep (piece ++ sep :: rest) = piece :: splitOn sep rest := by
  induction piece with
  | nil => simp [splitOn]
  | cons c piece ih =>
    rw [List.mem_cons, not_or] at h
    simp [splitOn, Ne.symm h.1, ih h.2]

theorem splitOn_joinWith {sep : Char} {pieces : List (List Char)} (hne : pieces ≠ [])
    (h : ∀ piece ∈ pieces, sep ∉ piece) : splitOn sep (joinWith sep pieces) = pieces := by
  induction pieces with
  | nil => exact absurd rfl hne
  | cons piece pieces ih =>
    cases pieces with
    | nil => exact splitOn_eq_self (h piece List.mem_cons_self)
    | cons next pieces =>
      rw [joinWith, splitOn_append_cons (h piece List.mem_cons_self)]
      · rw [ih (List.cons_ne_nil _ _) fun p hp => h p (List.mem_cons_of_mem _ hp)]
      · exact List.cons_ne_nil _ _

theorem cut_eq_self {sep : Char} {cs : List Char} (h : sep ∉ cs) : cut sep cs = (cs, none) := by
  have hcs : ∀ c ∈ cs, (c != sep) = true :=
    fun c hc => by simpa using fun hsep : c = sep => h (hsep ▸ hc)
  have hdrop : (cs ++ []).dropWhile (· != sep) = [].dropWhile (· != sep) :=
    List.dropWhile_append_of_pos hcs
  rw [List.append_nil, List.dropWhile_nil] at hdrop
  simp [cut, hdrop]

theorem cut_append_cons {sep : Char} {front : List Char} (h : sep ∉ front) (rest : List Char) :
    cut sep (front ++ sep :: rest) = (front, some rest) := by
  have hfront : ∀ c ∈ front, (c != sep) = true :=
    fun c hc => by simpa using fun hsep : c = sep => h (hsep ▸ hc)
  simp [cut, List.dropWhile_append_of_pos hfront, List.takeWhile_append_of_pos hfront]

theorem mem_joinWith {sep c : Char} {pieces : List (List Char)} (h : c ∈ joinWith sep pieces) :
    c = sep ∨ ∃ piece ∈ pieces, c ∈ piece := by
  induction pieces with
  | nil => cases h
  | cons piece pieces ih =>
    cases pieces with
    | nil => exact .inr ⟨piece, List.mem_cons_self, h⟩
    | cons next pieces =>
      simp only [joinWith, List.mem_append, List.mem_cons] at h
      obtain h | h | h := h
      · exact .inr ⟨piece, List.mem_cons_self, h⟩
      · exact .inl h
      · obtain hc | ⟨p, hp, hc⟩ := ih h
        · exact .inl hc
        · exact .inr ⟨p, List.mem_cons_of_mem _ hp, hc⟩

/-! ## Blanks -/

theorem not_isBlank_of_bounds {c : Char} (hlow : 0x21 ≤ c.toNat) (hhigh : c.toNat ≤ 0x7E) :
    isBlank c = false := by
  simp only [isBlank, Bool.or_eq_false_iff, Bool.and_eq_false_iff, decide_eq_false_iff_not,
    beq_eq_false_iff_ne]
  omega

variable {blank : Char → Bool}

structure IsTrimmed (blank : Char → Bool) (cs : List Char) : Prop where
  head : ∀ c ∈ cs.head?, blank c = false
  last : ∀ c ∈ cs.getLast?, blank c = false

theorem dropWhile_of_head {cs : List Char} (h : ∀ c ∈ cs.head?, blank c = false) :
    cs.dropWhile blank = cs := by
  cases cs with
  | nil => rfl
  | cons c cs => exact List.dropWhile_cons_of_neg (by simp [h c rfl])

theorem trimBy_append {front word back : List Char} (hfront : ∀ c ∈ front, blank c)
    (hback : ∀ c ∈ back, blank c) (h : IsTrimmed blank word) :
    trimBy blank (front ++ word ++ back) = word := by
  have hreverse : ((word ++ back).reverse.dropWhile blank).reverse = word := by
    rw [List.reverse_append,
      List.dropWhile_append_of_pos fun c hc => hback c (List.mem_reverse.1 hc),
      dropWhile_of_head (by simpa using h.last), List.reverse_reverse]
  rw [trimBy, List.append_assoc, List.dropWhile_append_of_pos hfront]
  cases word with
  | nil =>
    rw [List.nil_append, List.dropWhile_eq_nil_iff.2 hback, List.reverse_nil, List.dropWhile_nil,
      List.reverse_nil]
  | cons c cs =>
    have hkept : ((c :: cs) ++ back).dropWhile blank = (c :: cs) ++ back :=
      dropWhile_of_head (by simpa using h.head)
    rw [hkept, hreverse]

theorem trimBy_of_trimmed {cs : List Char} (h : IsTrimmed blank cs) : trimBy blank cs = cs := by
  have hnone : ∀ c ∈ ([] : List Char), blank c := by simp
  simpa using trimBy_append hnone hnone h

theorem trimBy_eq_self {cs : List Char} (h : ∀ c ∈ cs, blank c = false) : trimBy blank cs = cs :=
  trimBy_of_trimmed
    ⟨fun c hc => h c (List.mem_of_head? hc), fun c hc => h c (List.mem_of_getLast? hc)⟩

theorem exists_trimBy (blank : Char → Bool) (cs : List Char) :
    ∃ front back, cs = front ++ trimBy blank cs ++ back ∧ (∀ c ∈ front, blank c) ∧
      ∀ c ∈ back, blank c := by
  refine ⟨cs.takeWhile blank, ((cs.dropWhile blank).reverse.takeWhile blank).reverse, ?_,
    fun c hc => ?_, fun c hc => ?_⟩
  · have hback := congrArg List.reverse
      (List.takeWhile_append_dropWhile (p := blank) (l := (cs.dropWhile blank).reverse))
    rw [List.reverse_append, List.reverse_reverse] at hback
    rw [List.append_assoc, trimBy, hback, List.takeWhile_append_dropWhile]
  · exact List.all_eq_true.1 List.all_takeWhile c hc
  · exact List.all_eq_true.1 List.all_takeWhile c (List.mem_reverse.1 hc)

theorem isTrimmed_trimBy (blank : Char → Bool) (cs : List Char) :
    IsTrimmed blank (trimBy blank cs) where
  head c hc := by
    have hfore : trimBy blank cs <+: cs.dropWhile blank :=
      List.reverse_suffix.1 (by simpa [trimBy] using List.dropWhile_suffix blank)
    obtain ⟨rest, hrest⟩ := hfore
    have hhead := List.head?_dropWhile_not blank cs
    rw [← hrest, List.head?_append, hc] at hhead
    simpa using hhead
  last c hc := by
    have hhead := List.head?_dropWhile_not blank (cs.dropWhile blank).reverse
    rw [trimBy, List.getLast?_reverse] at hc
    rw [hc] at hhead
    simpa using hhead

theorem trimBy_trimBy (blank : Char → Bool) (cs : List Char) :
    trimBy blank (trimBy blank cs) = trimBy blank cs :=
  trimBy_of_trimmed (isTrimmed_trimBy blank cs)

theorem trimBy_subset (blank : Char → Bool) (cs : List Char) : trimBy blank cs ⊆ cs := by
  obtain ⟨front, back, hcs, _, _⟩ := exists_trimBy blank cs
  intro c hc
  rw [hcs]
  simp [hc]

theorem trim_trim (s : String) : trim (trim s) = trim s := by
  rw [trim, trim, String.toList_ofList, trimChars, trimChars, trimBy_trimBy]

/-- A text with nothing on it but blanks. -/
def Blank (s : String) : Prop := ∀ c ∈ s.toList, isBlank c

instance (s : String) : Decidable (Blank s) :=
  decidable_of_iff (s.toList.all isBlank) (by simp [Blank])

theorem trim_eq_empty_iff {s : String} : trim s = "" ↔ Blank s := by
  rw [← String.toList_eq_nil_iff, trim, String.toList_ofList, trimChars]
  constructor
  · intro hnil c hc
    obtain ⟨front, back, hs, hfront, hback⟩ := exists_trimBy isBlank s.toList
    rw [hs, hnil, List.append_nil, List.mem_append] at hc
    exact hc.elim (hfront c) (hback c)
  · intro hblank
    have hnone : ∀ c ∈ ([] : List Char), isBlank c := by simp
    have htrimmed : IsTrimmed isBlank [] := ⟨by simp, by simp⟩
    simpa using trimBy_append hblank hnone htrimmed

theorem trim_append {front back : String} (hfront : Blank front) (hback : Blank back) (s : String) :
    trim (front ++ s ++ back) = trim s := by
  obtain ⟨start, finish, hs, hstart, hfinish⟩ := exists_trimBy isBlank s.toList
  have hfront' : ∀ c ∈ front.toList ++ start, isBlank c := fun c hc =>
    (List.mem_append.1 hc).elim (hfront c) (hstart c)
  have hback' : ∀ c ∈ finish ++ back.toList, isBlank c := fun c hc =>
    (List.mem_append.1 hc).elim (hfinish c) (hback c)
  have htext : (front ++ s ++ back).toList =
      (front.toList ++ start) ++ trimBy isBlank s.toList ++ (finish ++ back.toList) :=
    calc (front ++ s ++ back).toList = front.toList ++ s.toList ++ back.toList := by simp
      _ = front.toList ++ (start ++ trimBy isBlank s.toList ++ finish) ++ back.toList :=
          congrArg (front.toList ++ · ++ back.toList) hs
      _ = (front.toList ++ start) ++ trimBy isBlank s.toList ++ (finish ++ back.toList) := by simp
  rw [trim, trimChars, htext, trimBy_append hfront' hback' (isTrimmed_trimBy isBlank s.toList)]
  rw [trim, trimChars]

theorem trim_line (s : String) : trim (s ++ "\n") = trim s := by
  have hnone : Blank "" := by decide
  have hnewline : Blank "\n" := by decide
  simpa using trim_append hnone hnewline s

def IsWord (s : String) : Prop := s ≠ "" ∧ ∀ c ∈ s.toList, isBlank c = false

instance (s : String) : Decidable (IsWord s) :=
  decidable_of_iff (s ≠ "" ∧ s.toList.all fun c => !isBlank c) (by simp [IsWord])

theorem trim_eq_self {s : String} (h : ∀ c ∈ s.toList, isBlank c = false) : trim s = s := by
  rw [trim, trimChars, trimBy_eq_self h, String.ofList_toList]

theorem IsWord.trim_line {s : String} (h : IsWord s) : trim (s ++ "\n") = s :=
  (Text.trim_line s).trans (trim_eq_self h.2)

/-! ## Lines -/

theorem isBlank_of_isBreak {c : Char} (h : isBreak c) : isBlank c := by
  simp only [isBreak, isBlank, Bool.or_eq_true, Bool.and_eq_true, decide_eq_true_eq,
    beq_iff_eq] at h ⊢
  omega

theorem isBreak_eq_false {c : Char} (h : isBlank c = false) : isBreak c = false :=
  Bool.eq_false_iff.2 fun hbreak => nomatch h.symm.trans (isBlank_of_isBreak hbreak)

theorem charLines_cons {c : Char} (h : isBreak c = false) (cs : List Char) :
    charLines (c :: cs) =
      match charLines cs with
      | [] => [[c]]
      | line :: lines => (c :: line) :: lines := by
  have hlines := charLines.eq_3 c cs (by rintro _ rfl; exact absurd h (by decide))
  rw [if_neg (by simp [h])] at hlines
  exact hlines

theorem charLines_append_cons {line : List Char} (h : ∀ c ∈ line, isBreak c = false)
    (rest : List Char) : charLines (line ++ '\n' :: rest) = line :: charLines rest := by
  induction line with
  | nil => rw [List.nil_append, charLines.eq_3 _ _ (by simp), if_pos (by decide)]
  | cons c line ih =>
    rw [List.cons_append, charLines_cons (h c List.mem_cons_self),
      ih fun d hd => h d (List.mem_cons_of_mem _ hd)]

/-- A text of words that each stand on a line. -/
def wordLines (words : List String) : String := String.join (words.map (· ++ "\n"))

/-! ## Numerals -/

theorem isDigit_of_mem_toDigits {n : Nat} {c : Char} (h : c ∈ Nat.toDigits 10 n) : c.isDigit :=
  Nat.isDigit_of_mem_toDigits (by decide) (by decide) h

theorem head?_toDigits_ne_zero {n : Nat} (h : 0 < n) : (Nat.toDigits 10 n).head? ≠ some '0' := by
  induction n using Nat.strongRecOn with
  | ind n ih =>
    rw [Nat.toDigits_eq_if (by decide)]
    split
    · next hlt =>
      have hdigit : ∀ m < 10, 0 < m → [m.digitChar].head? ≠ some '0' := by decide
      exact hdigit n hlt h
    · next hge =>
      have hfront := ih (n / 10) (by omega) (by omega)
      obtain ⟨c, cs, hcs⟩ := List.exists_cons_of_ne_nil (Nat.toDigits_ne_nil (b := 10) (n := n / 10))
      rw [hcs] at hfront ⊢
      exact hfront

theorem isNumeral_toDigits (n : Nat) : isNumeral (Nat.toDigits 10 n) := by
  have hdigits : (Nat.toDigits 10 n).all Char.isDigit :=
    List.all_eq_true.2 fun c hc => isDigit_of_mem_toDigits hc
  simp only [isNumeral.eq_def, hdigits, Bool.true_and]
  by_cases hn : 0 < n
  · have hhead := head?_toDigits_ne_zero hn
    cases hcs : Nat.toDigits 10 n with
    | nil => exact absurd hcs Nat.toDigits_ne_nil
    | cons c cs =>
      rw [hcs] at hhead
      cases cs with
      | nil => rfl
      | cons d cs => simpa using hhead
  · obtain rfl : n = 0 := by omega
    rfl

theorem readNumeral?_toDigits {n : Nat} (h : hasNumeral n) :
    readNumeral? (Nat.toDigits 10 n) = some n := by
  have hlength : (Nat.toDigits 10 n).length ≤ digitLimit := of_decide_eq_true h
  simp [readNumeral?, isNumeral_toDigits, hlength, Nat.ofDigitChars_ten_toDigits]

theorem ofDigitChars_lt_pow {cs : List Char} (h : cs.all Char.isDigit) :
    Nat.ofDigitChars 10 cs 0 < 10 ^ cs.length := by
  induction cs with
  | nil => simp [Nat.ofDigitChars_nil]
  | cons c cs ih =>
    rw [List.all_cons, Bool.and_eq_true] at h
    have hc : c.toNat - '0'.toNat < 10 := by
      have := h.1
      simp only [Char.isDigit, ge_iff_le, Bool.and_eq_true, decide_eq_true_eq] at this
      have hle : c.toNat ≤ 57 := this.2
      have hzero : '0'.toNat = 48 := rfl
      omega
    have hrest := ih h.2
    rw [Nat.ofDigitChars_cons, Nat.ofDigitChars_eq_ofDigitChars_zero, List.length_cons,
      Nat.pow_succ]
    generalize 10 ^ cs.length = power at hrest ⊢
    have : power * (10 * 0 + (c.toNat - '0'.toNat)) ≤ power * 9 := Nat.mul_le_mul_left _ (by omega)
    omega

theorem hasNumeral_ofDigitChars {cs : List Char} (hdigits : cs.all Char.isDigit)
    (hlength : cs.length ≤ digitLimit) : hasNumeral (Nat.ofDigitChars 10 cs 0) := by
  rw [hasNumeral, decide_eq_true_eq, Nat.length_toDigits_le_iff (by decide) (by decide)]
  exact Nat.lt_of_lt_of_le (ofDigitChars_lt_pow hdigits)
    (Nat.pow_le_pow_right (by decide) hlength)

theorem hasNumeral_of_readNumeral? {cs : List Char} {n : Nat} (h : readNumeral? cs = some n) :
    hasNumeral n := by
  simp only [readNumeral?, Option.ite_none_right_eq_some, Option.some.injEq] at h
  obtain ⟨⟨hnumeral, hlength⟩, rfl⟩ := h
  exact hasNumeral_ofDigitChars (Bool.and_eq_true _ _ ▸ hnumeral).1 hlength

end NextRelease.Text
