import Mathlib.Algebra.Order.Field.Power
import Mathlib.Data.Nat.Cast.Order.Field
import Mathlib.Data.Nat.Digits.Lemmas
import Mathlib.Tactic.FieldSimp
import Mathlib.Tactic.Linarith
import Mathlib.Tactic.Positivity
import Mathlib.Tactic.Ring
import NextRelease.Number.Binary64

/-! Mantissas are bounded, and the shortest decimal of a number that is not zero has a significand. The
grids that are searched for it get finer than the interval is wide. -/

namespace NextRelease.Binary64

/-! ## Quotients -/

section Quotients

variable {base num : Nat}

theorem scaleDown_den (base : Nat) (k : Int) (num num' den : Nat) :
    (scaleDown base k num den).2 = (scaleDown base k num' den).2 := by
  unfold scaleDown
  split <;> rfl

theorem scaleDown_den_pos (hbase : 0 < base) (k : Int) (num : Nat) {den : Nat} (hden : 0 < den) :
    0 < (scaleDown base k num den).2 := by
  unfold scaleDown
  split
  · exact Nat.mul_pos hden (Nat.pow_pos hbase)
  · exact hden

theorem scaleDown_ratio (hbase : 0 < base) (k : Int) (num den : Nat) :
    ((scaleDown base k num den).1 : ℚ) / (scaleDown base k num den).2 =
      num / den / (base : ℚ) ^ k := by
  have hne : (base : ℚ) ≠ 0 := by exact_mod_cast hbase.ne'
  unfold scaleDown
  split
  · next hk =>
    obtain ⟨n, rfl⟩ := Int.eq_ofNat_of_zero_le hk
    simp [div_div]
  · next hk =>
    obtain ⟨n, hn⟩ := Int.eq_ofNat_of_zero_le (show 0 ≤ -k by omega)
    obtain rfl : k = -(n : Int) := by omega
    have hpow : (base : ℚ) ^ (-(n : Int)) = ((base : ℚ) ^ n)⁻¹ := by simp
    rw [hpow]
    simp [div_inv_eq_mul, div_mul_eq_mul_div]

theorem scaleDown_le (base : Nat) (k : Int) (den : Nat) {num num' : Nat} (h : num ≤ num') :
    (scaleDown base k num den).1 ≤ (scaleDown base k num' den).1 := by
  unfold scaleDown
  split
  · exact h
  · exact Nat.mul_le_mul_right _ h

theorem scaleDown_pos (hbase : 0 < base) (k : Int) (den : Nat) (h : 0 < num) :
    0 < (scaleDown base k num den).1 := by
  unfold scaleDown
  split
  · exact h
  · exact Nat.mul_pos h (Nat.pow_pos hbase)

end Quotients

/-! ## Mantissas -/

def IsProper : Binary64 → Prop
  | finite _ mantissa _ => mantissa < 2 * fullMantissa
  | _ => True

theorem lt_two_pow_bitLength (n : Nat) : n < 2 ^ bitLength n := by
  unfold bitLength
  split
  · next h => simp [h]
  · exact Nat.lt_log2_self

theorem two_pow_bitLength_le {n : Nat} (h : 0 < n) : 2 ^ (bitLength n - 1) ≤ n := by
  have hne : n ≠ 0 := h.ne'
  rw [bitLength, if_neg hne, Nat.add_sub_cancel]
  exact Nat.log2_self_le hne

theorem bitLength_pos {n : Nat} (h : 0 < n) : 0 < bitLength n := by
  rw [bitLength, if_neg h.ne']
  exact Nat.succ_pos _

theorem roundQuotient_le (num den : Nat) : roundQuotient num den ≤ num / den + 1 := by
  unfold roundQuotient
  dsimp only
  split
  · omega
  · split
    · exact le_rfl
    · split <;> omega

theorem ratio_lt {num den : Nat} (hden : 0 < den) {q : Int}
    (hq : (bitLength num : Int) - bitLength den - 53 ≤ q) :
    (num : ℚ) / den / (2 : ℚ) ^ q < 2 ^ 54 := by
  have hnum : (num : ℚ) < 2 ^ bitLength num := by exact_mod_cast lt_two_pow_bitLength num
  have hlow : (2 : ℚ) ^ (bitLength den - 1) ≤ den := by exact_mod_cast two_pow_bitLength_le hden
  have hdenPos : (0 : ℚ) < den := by exact_mod_cast hden
  have hpos := bitLength_pos hden
  rw [div_div, div_lt_iff₀ (by positivity)]
  have hexponent : (bitLength num : Int) ≤ 54 + ((bitLength den - 1 : Nat) + q) := by omega
  calc (num : ℚ) < 2 ^ (bitLength num : Int) := by exact_mod_cast hnum
    _ ≤ 2 ^ (54 + (((bitLength den - 1 : Nat) : Int) + q)) :=
      zpow_le_zpow_right₀ (by norm_num) hexponent
    _ = 2 ^ 54 * (2 ^ (bitLength den - 1) * 2 ^ q) := by
      rw [zpow_add₀ (by norm_num), zpow_add₀ (by norm_num)]
      norm_cast
    _ ≤ 2 ^ 54 * (den * 2 ^ q) := by gcongr

theorem whole_lt {num den : Nat} (hden : 0 < den) {least q : Int}
    (hleast : (bitLength num : Int) - bitLength den - 53 ≤ least)
    (hq : q = if 2 * fullMantissa ≤ (scaleDown 2 least num den).1 / (scaleDown 2 least num den).2
      then least + 1 else least) :
    (scaleDown 2 q num den).1 / (scaleDown 2 q num den).2 < 2 * fullMantissa := by
  split at hq
  · have hratio := ratio_lt hden hleast
    have hhalf : (num : ℚ) / den / (2 : ℚ) ^ q < 2 ^ 53 := by
      rw [hq, zpow_add_one₀ (by norm_num), ← div_div, div_lt_iff₀ (by norm_num)]
      linarith
    have hfloor : (((scaleDown 2 q num den).1 / (scaleDown 2 q num den).2 : Nat) : ℚ) ≤
        num / den / (2 : ℚ) ^ q :=
      Nat.cast_div_le.trans (scaleDown_ratio (by decide) q num den).le
    exact_mod_cast hfloor.trans_lt hhalf
  · next hlong =>
    rw [hq]
    exact Nat.lt_of_not_le hlong

theorem isProper_ofQuotient (negative : Bool) (num : Nat) {den : Nat} (hden : 0 < den) :
    (ofQuotient negative num den).IsProper := by
  unfold ofQuotient
  extract_lets least
  split
  next n d hscaled =>
  extract_lets q
  split
  next n' d' hscaled' =>
  have hwhole : n' / d' < 2 * fullMantissa := by
    have hlt := whole_lt hden (q := q) (le_max_left _ (-1074)) (by rw [hscaled])
    rwa [hscaled'] at hlt
  have hround := roundQuotient_le n' d'
  extract_lets m
  split
  next m' q' hcarried =>
  -- Rounding up may give one bit more, which is carried into the exponent.
  have hm' : m' < 2 * fullMantissa := by
    split at hcarried
    · cases hcarried
      decide
    · cases hcarried
      omega
  split
  · exact (by decide : 0 < 2 * fullMantissa)
  · split
    · trivial
    · exact hm'

theorem isProper_ofDecimal (negative : Bool) (significand : Nat) (exponent : Int) :
    (ofDecimal negative significand exponent).IsProper := by
  unfold ofDecimal
  extract_lets magnitude
  split
  · exact (by decide : 0 < 2 * fullMantissa)
  · split
    · trivial
    · have hden : 0 < (scaleDown 10 (-exponent) significand 1).2 :=
        scaleDown_den_pos (by decide) _ _ (by decide)
      split
      next num den hscaled =>
      rw [hscaled] at hden
      exact isProper_ofQuotient negative num hden

/-! ## Grids -/

section Grids

variable {low num high den : Nat} {closed : Bool}

def liesIn (low high step : Nat) (closed : Bool) (c : Nat) : Bool :=
  if closed then low ≤ c * step && c * step ≤ high else low < c * step && c * step < high

theorem nearestOnGrid_cases (k : Int) (low num high den : Nat) (closed : Bool) :
    (nearestOnGrid k low num high den closed = none ∧
      liesIn (scaleDown 10 k low den).1 (scaleDown 10 k high den).1 (scaleDown 10 k num den).2 closed
        ((scaleDown 10 k num den).1 / (scaleDown 10 k num den).2 + 1) = false) ∨
      ∃ c, nearestOnGrid k low num high den closed = some c ∧
        liesIn (scaleDown 10 k low den).1 (scaleDown 10 k high den).1 (scaleDown 10 k num den).2
          closed c = true := by
  unfold nearestOnGrid
  dsimp only
  split
  · next habove => exact .inl ⟨rfl, habove⟩
  · next hbelow _ => exact .inr ⟨_, rfl, hbelow⟩
  · next habove => exact .inr ⟨_, rfl, habove⟩
  · next hbelow habove =>
    split
    · exact .inr ⟨_, rfl, hbelow⟩
    · split
      · exact .inr ⟨_, rfl, habove⟩
      · split
        · exact .inr ⟨_, rfl, hbelow⟩
        · exact .inr ⟨_, rfl, habove⟩

theorem nearestOnGrid_ne_zero {k : Int} {c : Nat} (hlow : 0 < low)
    (h : nearestOnGrid k low num high den closed = some c) : c ≠ 0 := by
  have hl : (scaleDown 10 k low den).1 ≠ 0 := (scaleDown_pos (by decide) k den hlow).ne'
  obtain ⟨hnone, _⟩ | ⟨found, hfound, hlies⟩ := nearestOnGrid_cases k low num high den closed
  · rw [hnone] at h
    cases h
  · obtain rfl := Option.some.inj (hfound.symm.trans h)
    rintro rfl
    cases closed <;> simp [liesIn, hl] at hlies

theorem liesIn_above {n d l b : Nat} (hd : 0 < d) (hl : l ≤ n) (hroom : n + d < b) :
    liesIn l b d closed (n / d + 1) = true := by
  have hover : n < (n / d + 1) * d := by
    rw [Nat.mul_comm]
    exact Nat.lt_mul_div_succ n hd
  have hunder : (n / d + 1) * d ≤ n + d := by
    rw [Nat.succ_mul]
    exact Nat.add_le_add_right (Nat.div_mul_le_self n d) d
  cases closed <;> simp [liesIn] <;> omega

theorem scaleDown_room {k : Int} (hden : 0 < den)
    (hfine : (10 : ℚ) ^ k < ((high : ℚ) - num) / den) :
    (scaleDown 10 k num den).1 + (scaleDown 10 k num den).2 < (scaleDown 10 k high den).1 := by
  have hhigh := scaleDown_ratio (show 0 < 10 by decide) k high den
  have hnum := scaleDown_ratio (show 0 < 10 by decide) k num den
  have hd := scaleDown_den_pos (show 0 < 10 by decide) k num hden
  rw [scaleDown_den 10 k high num den] at hhigh
  have hd' : (0 : ℚ) < (scaleDown 10 k num den).2 := by exact_mod_cast hd
  have hstep : (1 : ℚ) < ((scaleDown 10 k high den).1 - (scaleDown 10 k num den).1) /
      (scaleDown 10 k num den).2 := by
    rw [sub_div, hhigh, hnum, ← sub_div, ← sub_div, lt_div_iff₀ (by positivity), one_mul]
    exact_mod_cast hfine
  rw [lt_div_iff₀ hd', one_mul, lt_sub_iff_add_lt, add_comm] at hstep
  exact_mod_cast hstep

theorem nearestOnGrid_ne_none {k : Int} (hden : 0 < den) (hlow : low ≤ num)
    (hfine : (10 : ℚ) ^ k < ((high : ℚ) - num) / den) :
    nearestOnGrid k low num high den closed ≠ none := by
  have habove : liesIn (scaleDown 10 k low den).1 (scaleDown 10 k high den).1
      (scaleDown 10 k num den).2 closed
      ((scaleDown 10 k num den).1 / (scaleDown 10 k num den).2 + 1) = true :=
    liesIn_above (scaleDown_den_pos (by decide) k num hden) (scaleDown_le 10 k den hlow)
      (scaleDown_room hden hfine)
  obtain ⟨_, hlies⟩ | ⟨c, hfound, _⟩ := nearestOnGrid_cases k low num high den closed
  · rw [habove] at hlies
    cases hlies
  · rw [hfound]
    exact Option.some_ne_none c

theorem searchGrids_ne_zero (hlow : 0 < low) {fuel : Nat} {top k : Int} (hk : k ≤ top)
    (hfuel : top < k + fuel) (hfound : nearestOnGrid k low num high den closed ≠ none) :
    (searchGrids low num high den closed fuel top).1 ≠ 0 := by
  induction fuel generalizing top with
  | zero => omega
  | succ fuel ih =>
    unfold searchGrids
    split
    · next c hc => exact nearestOnGrid_ne_zero hlow hc
    · next hnone =>
      have hne : k ≠ top := by
        rintro rfl
        exact hfound hnone
      exact ih (by omega) (by omega)

theorem dropTrailingZeros_ne_zero {fuel c : Nat} {k : Int} (h : c ≠ 0) :
    (dropTrailingZeros fuel c k).1 ≠ 0 := by
  induction fuel generalizing c k with
  | zero => exact h
  | succ fuel ih =>
    unfold dropTrailingZeros
    split
    · exact ih (by omega)
    · exact h

end Grids

/-! ## The shortest decimal -/

theorem decimalLength_pos (n : Nat) : 0 < decimalLength n :=
  List.length_pos_iff.2 Nat.toDigits_ne_nil

theorem decimalLength_le_iff {n k : Nat} (hk : 0 < k) : decimalLength n ≤ k ↔ n < 10 ^ k :=
  Nat.length_toDigits_le_iff (by decide) hk

theorem lt_ten_pow_decimalLength (n : Nat) : n < 10 ^ decimalLength n :=
  (decimalLength_le_iff (decimalLength_pos n)).1 le_rfl

theorem ten_pow_decimalLength_le {n : Nat} (h : 0 < n) : 10 ^ (decimalLength n - 1) ≤ n := by
  by_contra hlt
  rw [Nat.not_le] at hlt
  have hpos := decimalLength_pos n
  by_cases hone : decimalLength n - 1 = 0
  · rw [hone, pow_zero] at hlt
    omega
  · have hshort := (decimalLength_le_iff (Nat.pos_of_ne_zero hone)).2 hlt
    omega

def firstGrid (num den : Nat) : Int :=
  if den ≤ num then decimalLength (num / den) else 2 - decimalLength (den / num)

theorem ten_pow_firstGrid_le {num den : Nat} (hnum : 0 < num) (hden : 0 < den) :
    (10 : ℚ) ^ (firstGrid num den - 2) ≤ num / den := by
  have hden' : (0 : ℚ) < den := by exact_mod_cast hden
  have hnum' : (0 : ℚ) < num := by exact_mod_cast hnum
  unfold firstGrid
  split
  · next hle =>
    have hpos := decimalLength_pos (num / den)
    calc (10 : ℚ) ^ ((decimalLength (num / den) : Int) - 2)
        ≤ 10 ^ ((decimalLength (num / den) - 1 : Nat) : Int) :=
          zpow_le_zpow_right₀ (by norm_num) (by omega)
      _ ≤ ((num / den : Nat) : ℚ) := by
          exact_mod_cast ten_pow_decimalLength_le (Nat.div_pos hle hden)
      _ ≤ num / den := Nat.cast_div_le
  · next hlt =>
    have hlen : den < 10 ^ decimalLength (den / num) * num :=
      (Nat.div_lt_iff_lt_mul hnum).1 (lt_ten_pow_decimalLength _)
    have hexponent : (2 - decimalLength (den / num) - 2 : Int) = -(decimalLength (den / num) : Int) := by
      omega
    rw [hexponent, zpow_neg, zpow_natCast, le_div_iff₀ hden', inv_mul_le_iff₀ (by positivity)]
    exact_mod_cast hlen.le

theorem ten_pow_lt_room {num high den mantissa : Nat} (hnum : 0 < num) (hden : 0 < den)
    (hmantissa : mantissa < 2 * fullMantissa) {scale : ℚ} (hscale : 0 < scale)
    (hratio : (num : ℚ) / den = 4 * mantissa / scale)
    (hhigh : (high : ℚ) / den = (4 * mantissa + 2) / scale) :
    (10 : ℚ) ^ (firstGrid num den - 19) < ((high : ℚ) - num) / den := by
  have hwhole : (mantissa : ℚ) < 2 ^ 53 := by exact_mod_cast hmantissa
  have hroom : ((high : ℚ) - num) / den = 2 / scale := by
    rw [sub_div, hhigh, hratio]
    ring
  calc (10 : ℚ) ^ (firstGrid num den - 19)
      = 10 ^ (firstGrid num den - 2) / 10 ^ 17 := by
        rw [show firstGrid num den - 19 = firstGrid num den - 2 - (17 : Nat) by omega,
          zpow_sub₀ (by norm_num), zpow_natCast]
    _ ≤ num / den / 10 ^ 17 := by
        gcongr
        exact ten_pow_firstGrid_le hnum hden
    _ = 4 * mantissa / 10 ^ 17 / scale := by
        rw [hratio]
        ring
    _ < 2 / scale := by
        gcongr
        linarith
    _ = ((high : ℚ) - num) / den := hroom.symm

theorem shortest_ne_zero {mantissa : Nat} (hpos : 0 < mantissa)
    (hmantissa : mantissa < 2 * fullMantissa) (exponent : Int) :
    (shortest mantissa exponent).1 ≠ 0 := by
  unfold shortest
  extract_lets lowGap
  have hgap : lowGap ≤ 2 := by
    unfold lowGap
    split <;> decide
  have hden : 0 < (scaleDown 2 (2 - exponent) (4 * mantissa) 1).2 :=
    scaleDown_den_pos (by decide) _ _ (by decide)
  have hnum : 0 < (scaleDown 2 (2 - exponent) (4 * mantissa) 1).1 :=
    scaleDown_pos (by decide) _ _ (by omega)
  have hlow : 0 < (scaleDown 2 (2 - exponent) (4 * mantissa - lowGap) 1).1 :=
    scaleDown_pos (by decide) _ _ (by omega)
  have hle := scaleDown_le 2 (2 - exponent) 1 (Nat.sub_le (4 * mantissa) lowGap)
  have hratio := scaleDown_ratio (show 0 < 2 by decide) (2 - exponent) (4 * mantissa) 1
  have hhigh := scaleDown_ratio (show 0 < 2 by decide) (2 - exponent) (4 * mantissa + 2) 1
  rw [scaleDown_den 2 (2 - exponent) (4 * mantissa + 2) (4 * mantissa)] at hhigh
  split
  next num den hscaled =>
  split
  next low den' hscaledLow =>
  split
  next high den'' hscaledHigh =>
  rw [hscaled] at hden hnum hle hratio hhigh
  rw [hscaledLow] at hlow hle
  rw [hscaledHigh] at hhigh
  extract_lets top
  have hscale : (0 : ℚ) < 2 ^ (2 - exponent) := by positivity
  have hfine : (10 : ℚ) ^ (firstGrid num den - 19) < ((high : ℚ) - num) / den :=
    ten_pow_lt_room hnum hden hmantissa hscale (by simpa using hratio) (by simpa using hhigh)
  have htop : top = firstGrid num den := rfl
  have hsearch : (searchGrids low num high den (mantissa % 2 == 0) 20 top).1 ≠ 0 :=
    searchGrids_ne_zero hlow (by omega) (by omega) (nearestOnGrid_ne_none hden hle hfine)
  split
  next c k hfound =>
  rw [hfound] at hsearch
  exact dropTrailingZeros_ne_zero hsearch

end NextRelease.Binary64
