import NextRelease.Json.Writer
import NextRelease.Proofs.Json.Reading

/-! Written numbers are read as numbers: whole ones as themselves, and the others, whose form has a
fraction or an exponent, as some number with a mantissa. -/

namespace NextRelease.Json

def Stops (rest : List Char) : Prop :=
  ∀ c ∈ rest.head?, c.isDigit = false ∧ c ≠ '.' ∧ c ≠ 'e' ∧ c ≠ 'E'

theorem stops_nil : Stops [] := by simp [Stops]

/-! ## Digits -/

section Digits

variable {digits rest : List Char}

theorem takeWhile_digits (hdigits : digits.all Char.isDigit)
    (hrest : ∀ c ∈ rest.head?, c.isDigit = false) :
    (digits ++ rest).takeWhile Char.isDigit = digits := by
  rw [List.takeWhile_append_of_pos (List.all_eq_true.1 hdigits)]
  cases rest with
  | nil => simp
  | cons c rest => rw [List.takeWhile_cons_of_neg (by simpa using hrest c rfl), List.append_nil]

theorem dropWhile_digits (hdigits : digits.all Char.isDigit)
    (hrest : ∀ c ∈ rest.head?, c.isDigit = false) :
    (digits ++ rest).dropWhile Char.isDigit = rest := by
  rw [List.dropWhile_append_of_pos (List.all_eq_true.1 hdigits)]
  cases rest with
  | nil => simp
  | cons c rest => rw [List.dropWhile_cons_of_neg (by simpa using hrest c rfl)]

theorem takeFraction_eq_none (h : ∀ c ∈ rest.head?, c ≠ '.') : takeFraction rest = none := by
  cases rest with
  | nil => rfl
  | cons c rest =>
    unfold takeFraction
    split
    · next heq =>
      cases heq
      exact absurd rfl (h _ rfl)
    · rfl

theorem takeFraction_digits (hdigits : digits.all Char.isDigit) (hne : digits ≠ [])
    (hrest : ∀ c ∈ rest.head?, c.isDigit = false) :
    takeFraction ('.' :: (digits ++ rest)) = some (digits, rest) := by
  simp only [takeFraction, takeWhile_digits hdigits hrest, dropWhile_digits hdigits hrest]
  rw [if_neg (by simpa using hne)]

theorem takeExponent_eq_none (h : ∀ c ∈ rest.head?, c ≠ 'e' ∧ c ≠ 'E') :
    takeExponent rest = none := by
  cases rest with
  | nil => rfl
  | cons c rest =>
    have hc := h c rfl
    simp only [takeExponent]
    rw [if_neg (by simp [hc.1, hc.2])]

theorem takeExponent_digits {sign : Char} (hsign : sign = '+' ∨ sign = '-')
    (hdigits : digits.all Char.isDigit) (hne : digits ≠ []) :
    ∃ n, ∀ rest : List Char, (∀ c ∈ rest.head?, c.isDigit = false) →
      takeExponent ('e' :: sign :: (digits ++ rest)) = some (n, rest) := by
  have hempty : digits.isEmpty = false := List.isEmpty_eq_false_iff.2 hne
  obtain rfl | rfl := hsign
  · refine ⟨(Nat.ofDigitChars 10 digits 0 : Nat), fun rest hrest => ?_⟩
    simp only [takeExponent, takeWhile_digits hdigits hrest, dropWhile_digits hdigits hrest, hempty]
    rfl
  · refine ⟨-(Nat.ofDigitChars 10 digits 0 : Nat), fun rest hrest => ?_⟩
    simp only [takeExponent, takeWhile_digits hdigits hrest, dropWhile_digits hdigits hrest, hempty]
    rfl

end Digits

/-! ## Numbers from their first digit on -/

section Numbers

variable {whole rest : List Char}

theorem head_whole {first : Char} {digits : List Char} (h : Text.isNumeral (first :: digits)) :
    (if first = '0' then ['0'] else first :: digits) = first :: digits := by
  split
  · next hzero =>
    subst hzero
    cases digits with
    | nil => rfl
    | cons next digits => simp [Text.isNumeral] at h
  · rfl

theorem isNumeral_digits (h : Text.isNumeral whole) : whole.all Char.isDigit ∧ whole ≠ [] := by
  unfold Text.isNumeral at h
  rw [Bool.and_eq_true] at h
  refine ⟨h.1, ?_⟩
  rintro rfl
  cases h.2

theorem isNumeral_of_head {first : Char} {digits : List Char}
    (hdigits : (first :: digits).all Char.isDigit) (hfirst : first ≠ '0') :
    Text.isNumeral (first :: digits) := by
  unfold Text.isNumeral
  rw [hdigits, Bool.true_and]
  cases digits with
  | nil => rfl
  | cons next digits => simpa using hfirst

theorem readNumber_whole (start : List Char) (negative : Bool) (hwhole : Text.isNumeral whole)
    (hlength : whole.length ≤ Text.digitLimit) (hrest : Stops rest) :
    readNumber start negative (whole ++ rest) =
      .ok (.int (if negative then -(Nat.ofDigitChars 10 whole 0 : Int)
        else Nat.ofDigitChars 10 whole 0), rest) := by
  obtain ⟨hdigits, hne⟩ := isNumeral_digits hwhole
  obtain ⟨first, digits, rfl⟩ := List.exists_cons_of_ne_nil hne
  unfold readNumber
  rw [takeWhile_digits hdigits fun c hc => (hrest c hc).1]
  dsimp only
  rw [head_whole hwhole, List.drop_left, takeFraction_eq_none fun c hc => (hrest c hc).2.1]
  dsimp only [Option.elim_none]
  rw [takeExponent_eq_none fun c hc => (hrest c hc).2.2]
  dsimp only
  rw [if_neg (Nat.not_lt.2 hlength)]

inductive IsPart : List Char → Prop
  | fraction {digits : List Char} : digits.all Char.isDigit → digits ≠ [] → IsPart ('.' :: digits)
  | exponent {sign : Char} {digits : List Char} : sign = '+' ∨ sign = '-' →
      digits.all Char.isDigit → digits ≠ [] → IsPart ('e' :: sign :: digits)
  | both {before : List Char} {sign : Char} {digits : List Char} : before.all Char.isDigit →
      before ≠ [] → sign = '+' ∨ sign = '-' → digits.all Char.isDigit → digits ≠ [] →
        IsPart ('.' :: (before ++ 'e' :: sign :: digits))

inductive Takes : List Char → List Char → Int → List Char → Prop
  | fraction {tail digits rest : List Char} : takeFraction tail = some (digits, rest) →
      takeExponent rest = none → Takes tail digits 0 rest
  | exponent {tail rest : List Char} {power : Int} : takeFraction tail = none →
      takeExponent tail = some (power, rest) → Takes tail [] power rest
  | both {tail digits more rest : List Char} {power : Int} :
      takeFraction tail = some (digits, more) → takeExponent more = some (power, rest) →
        Takes tail digits power rest

theorem readNumber_of_takes {tail digits : List Char} {power : Int} (start : List Char)
    (negative : Bool) (hwhole : Text.isNumeral whole) (htail : ∀ c ∈ tail.head?, c.isDigit = false)
    (h : Takes tail digits power rest) :
    readNumber start negative (whole ++ tail) = .ok (.float (.ofDecimal negative
      (Nat.ofDigitChars 10 (whole ++ digits) 0) (power - digits.length)), rest) := by
  obtain ⟨hdigits, hne⟩ := isNumeral_digits hwhole
  obtain ⟨first, later, rfl⟩ := List.exists_cons_of_ne_nil hne
  unfold readNumber
  rw [takeWhile_digits hdigits htail]
  dsimp only
  rw [head_whole hwhole, List.drop_left]
  cases h with
  | fraction hfraction hexponent =>
    rw [hfraction]
    dsimp only [Option.elim_some]
    rw [hexponent]
    rfl
  | exponent hfraction hexponent =>
    rw [hfraction]
    dsimp only [Option.elim_none]
    rw [hexponent]
    rfl
  | both hfraction hexponent =>
    rw [hfraction]
    dsimp only [Option.elim_some]
    rw [hexponent]
    rfl

theorem IsPart.takes {part : List Char} (h : IsPart part) :
    ∃ digits power, ∀ rest, Stops rest → Takes (part ++ rest) digits power rest := by
  have hstop {rest : List Char} (hrest : Stops rest) : ∀ c ∈ rest.head?, c.isDigit = false :=
    fun c hc => (hrest c hc).1
  cases h with
  | @fraction digits hdigits hne =>
    refine ⟨digits, 0, fun rest hrest => .fraction ?_ (takeExponent_eq_none fun c hc => (hrest c hc).2.2)⟩
    rw [List.cons_append, takeFraction_digits hdigits hne (hstop hrest)]
  | @exponent sign digits hsign hdigits hne =>
    obtain ⟨power, hpower⟩ := takeExponent_digits hsign hdigits hne
    exact ⟨[], power, fun rest hrest => .exponent (takeFraction_eq_none (by simp))
      (hpower rest (hstop hrest))⟩
  | @both before sign digits hbefore hsome hsign hdigits hne =>
    obtain ⟨power, hpower⟩ := takeExponent_digits hsign hdigits hne
    refine ⟨before, power, fun rest hrest => .both ?_ (hpower rest (hstop hrest))⟩
    rw [List.cons_append, List.append_assoc, takeFraction_digits hbefore hsome (by simp)]
    rfl

theorem readNumber_part {part : List Char} (negative : Bool) (hwhole : Text.isNumeral whole)
    (hpart : IsPart part) :
    ∃ x, ∀ start rest : List Char, Stops rest →
      readNumber start negative (whole ++ (part ++ rest)) = .ok (.float x, rest) := by
  have hhead (rest : List Char) : ∀ c ∈ (part ++ rest).head?, c.isDigit = false := by
    cases hpart <;> simp
  obtain ⟨digits, power, htakes⟩ := hpart.takes
  exact ⟨_, fun start rest hrest =>
    readNumber_of_takes start negative hwhole (hhead rest) (htakes rest hrest)⟩

end Numbers

/-! ## How numbers are laid out -/

section Layout

open Binary64

theorem all_padLeft {width : Nat} {digits : List Char} (h : digits.all Char.isDigit) :
    (padLeft width digits).all Char.isDigit := by
  unfold padLeft
  rw [List.all_append, h, Bool.and_true]
  exact List.all_eq_true.2 fun c hc => by rw [List.eq_of_mem_replicate hc]; rfl

theorem all_toDigits (n : Nat) : (Nat.toDigits 10 n).all Char.isDigit :=
  List.all_eq_true.2 fun _ => Text.isDigit_of_mem_toDigits

theorem all_zeros (n : Nat) : (List.replicate n '0').all Char.isDigit :=
  List.all_eq_true.2 fun c hc => by rw [List.eq_of_mem_replicate hc]; rfl

section

variable {first : Char} {later : List Char}

theorem isNumeral_take (hall : (first :: later).all Char.isDigit) (hfirst : first ≠ '0') {n : Nat}
    (hn : 0 < n) {more : List Char} (hmore : more.all Char.isDigit) :
    Text.isNumeral ((first :: later).take n ++ more) := by
  obtain ⟨n, rfl⟩ := Nat.exists_eq_succ_of_ne_zero hn.ne'
  have htake : ((first :: later).take (n + 1)).all Char.isDigit :=
    List.all_eq_true.2 fun c hc => List.all_eq_true.1 hall c (List.mem_of_mem_take hc)
  refine isNumeral_of_head ?_ hfirst
  change ((first :: later).take (n + 1) ++ more).all Char.isDigit
  rw [List.all_append, htake, hmore]
  rfl

theorem all_drop {digits : List Char} (hall : digits.all Char.isDigit) (n : Nat) :
    (digits.drop n).all Char.isDigit :=
  List.all_eq_true.2 fun c hc => List.all_eq_true.1 hall c (List.mem_of_mem_drop hc)

theorem isPart_scientific (hall : (first :: later).all Char.isDigit) (width : Nat) (e : Int) :
    IsPart ((if (first :: later).length = 1 then [] else '.' :: (first :: later).drop 1) ++
      'e' :: (if e < 0 then '-' else '+') :: padLeft width (Nat.toDigits 10 e.natAbs)) := by
  have hsign : (if e < 0 then '-' else '+') = '+' ∨ (if e < 0 then '-' else '+') = '-' := by
    split
    · exact .inr rfl
    · exact .inl rfl
  have hpad : (padLeft width (Nat.toDigits 10 e.natAbs)).all Char.isDigit :=
    all_padLeft (all_toDigits _)
  have hsome : padLeft width (Nat.toDigits 10 e.natAbs) ≠ [] := by
    unfold padLeft
    exact List.append_ne_nil_of_right_ne_nil _ Nat.toDigits_ne_nil
  cases later with
  | nil => exact .exponent hsign hpad hsome
  | cons second later =>
    rw [if_neg (by simp)]
    exact .both (all_drop hall 1) (by simp) hsign hpad hsome

end

theorem layOut_eq (layout : Layout) {significand : Nat} (h : significand ≠ 0) (power : Int) :
    ∃ whole part, layOut layout significand power = whole ++ part ∧ Text.isNumeral whole ∧
      IsPart part := by
  have hall := all_toDigits significand
  obtain ⟨first, later, hdigits⟩ := List.exists_cons_of_ne_nil
    (show Nat.toDigits 10 significand ≠ [] from Nat.toDigits_ne_nil)
  have hfirst : first ≠ '0' := by
    rintro rfl
    exact Text.head?_toDigits_ne_zero (Nat.pos_of_ne_zero h) (by rw [hdigits]; rfl)
  unfold layOut
  rw [hdigits] at hall ⊢
  extract_lets digits count point e fraction
  have hcount : 0 < count := List.length_pos_iff.2 (List.cons_ne_nil _ _)
  have hfront {n : Nat} (hn : 0 < n) : Text.isNumeral (digits.take n) := by
    have hwhole : Text.isNumeral (digits.take n ++ []) := isNumeral_take hall hfirst hn rfl
    rwa [List.append_nil] at hwhole
  split
  · split
    · refine ⟨['0'], _, rfl, rfl, .fraction ?_ ?_⟩
      · rw [List.all_append, all_zeros, hall]
        rfl
      · simp [digits]
    · split
      · have hwhole := isNumeral_take hall hfirst hcount (all_zeros (point.toNat - count))
        rw [List.take_length] at hwhole
        exact ⟨digits ++ List.replicate (point.toNat - count) '0', ['.', '0'], by simp, hwhole,
          .fraction rfl (by simp)⟩
      · refine ⟨digits.take point.toNat, _, rfl, hfront (by omega), .fraction (all_drop hall _) ?_⟩
        rw [Ne, List.drop_eq_nil_iff]
        omega
  · exact ⟨digits.take 1, _, List.append_assoc _ _ _, hfront Nat.one_pos,
      isPart_scientific hall _ e⟩

theorem write_finite (negative : Bool) {mantissa : Nat} (h : mantissa < 2 * fullMantissa)
    (exponent : Int) :
    ∃ whole part, (finite negative mantissa exponent).write numberLayout =
        (if negative then ['-'] else []) ++ (whole ++ part) ∧
      Text.isNumeral whole ∧ IsPart part := by
  unfold Binary64.write
  dsimp only
  by_cases hzero : mantissa = 0
  · exact ⟨['0'], ['.', '0'], by rw [if_pos hzero]; rfl, rfl, .fraction rfl (by simp)⟩
  · obtain ⟨whole, part, hbody, hwhole, hpart⟩ := layOut_eq numberLayout
      (shortest_ne_zero (Nat.pos_of_ne_zero hzero) h exponent) (shortest mantissa exponent).2
    exact ⟨whole, part, by rw [if_neg hzero, hbody], hwhole, hpart⟩

/-! ## Line ends -/

theorem return_not_mem_digits {digits : List Char} (h : digits.all Char.isDigit) : '\r' ∉ digits :=
  fun hmem => absurd (List.all_eq_true.1 h _ hmem) (by decide)

theorem IsPart.return_not_mem {part : List Char} (h : IsPart part) : '\r' ∉ part := by
  cases h with
  | fraction hdigits _ => simp [return_not_mem_digits hdigits]
  | exponent hsign hdigits _ => obtain rfl | rfl := hsign <;> simp [return_not_mem_digits hdigits]
  | both hbefore _ hsign hdigits _ =>
    obtain rfl | rfl := hsign <;>
      simp [return_not_mem_digits hdigits, return_not_mem_digits hbefore]

theorem return_not_mem_writeInt (n : Int) : '\r' ∉ writeInt n := by
  unfold writeInt
  split <;> simp [return_not_mem_digits (all_toDigits n.natAbs)]

theorem return_not_mem_write {x : Binary64} (h : x.IsProper) : '\r' ∉ x.write numberLayout := by
  cases x with
  | nan => decide
  | infinity negative => cases negative <;> decide
  | finite negative mantissa exponent =>
    obtain ⟨whole, part, hwrite, hwhole, hpart⟩ := write_finite negative h exponent
    rw [hwrite]
    split <;> simp [return_not_mem_digits (isNumeral_digits hwhole).1, hpart.return_not_mem]

end Layout

/-! ## Numbers as values -/

section Values

variable {first : Char} {cs rest : List Char}

theorem takeWord?_eq_none {w c : Char} (h : w ≠ c) (word cs : List Char) :
    takeWord? (w :: word) (c :: cs) = none := by
  rw [takeWord?, if_neg h]

theorem readScalar_digit (h : first.isDigit) (cs : List Char) :
    readScalar (first :: cs) = readNumber (first :: cs) false (first :: cs) := by
  have hne {c : Char} (hc : c.isDigit = false) : c ≠ first := by
    rintro rfl
    rw [h] at hc
    cases hc
  have hword {w : String} {c : Char} {letters : List Char} (hw : w.toList = c :: letters)
      (hc : c.isDigit = false) : takeWord? w.toList (first :: cs) = none := by
    rw [hw, takeWord?_eq_none (hne hc)]
  unfold readScalar
  simp only [hword (w := "null") rfl rfl, hword (w := "true") rfl rfl,
    hword (w := "false") rfl rfl, hword (w := "NaN") rfl rfl, hword (w := "Infinity") rfl rfl,
    hword (w := "-Infinity") rfl rfl]
  split
  · next heq => exact absurd (List.cons.inj heq).1.symm (hne rfl)
  · rfl

theorem readScalar_sign (h : first.isDigit) (cs : List Char) :
    readScalar ('-' :: first :: cs) = readNumber ('-' :: first :: cs) true (first :: cs) := by
  have hne : 'I' ≠ first := by
    rintro rfl
    cases h
  have hword {w : String} {c : Char} {letters : List Char} (hw : w.toList = c :: letters)
      (hc : c ≠ '-') : takeWord? w.toList ('-' :: first :: cs) = none := by
    rw [hw, takeWord?_eq_none hc]
  have hinfinity : takeWord? "-Infinity".toList ('-' :: first :: cs) = none := by
    change takeWord? ('I' :: _) (first :: cs) = none
    exact takeWord?_eq_none hne _ _
  unfold readScalar
  simp only [hword (w := "null") rfl (by decide), hword (w := "true") rfl (by decide),
    hword (w := "false") rfl (by decide), hword (w := "NaN") rfl (by decide),
    hword (w := "Infinity") rfl (by decide), hinfinity]

theorem readScalar_writeInt {n : Int} (h : Text.hasNumeral n.natAbs) (hrest : Stops rest) :
    readScalar (writeInt n ++ rest) = .ok (.int n, rest) := by
  have hnumeral := Text.isNumeral_toDigits n.natAbs
  have hlength : (Nat.toDigits 10 n.natAbs).length ≤ Text.digitLimit := by simpa [Text.hasNumeral] using h
  have hvalue := Nat.ofDigitChars_ten_toDigits (n := n.natAbs)
  obtain ⟨first, digits, hdigits⟩ := List.exists_cons_of_ne_nil
    (show Nat.toDigits 10 n.natAbs ≠ [] from Nat.toDigits_ne_nil)
  have hfirst : first.isDigit := Text.isDigit_of_mem_toDigits (hdigits ▸ List.mem_cons_self)
  rw [hdigits] at hnumeral hlength hvalue
  unfold writeInt
  rw [hdigits]
  split
  · change readScalar ('-' :: first :: (digits ++ rest)) = _
    have hn : -(n.natAbs : Int) = n := by omega
    rw [readScalar_sign hfirst, ← List.cons_append, readNumber_whole _ _ hnumeral hlength hrest,
      hvalue, if_pos rfl, hn]
  · change readScalar (first :: (digits ++ rest)) = _
    have hn : (n.natAbs : Int) = n := by omega
    rw [readScalar_digit hfirst, ← List.cons_append, readNumber_whole _ _ hnumeral hlength hrest,
      hvalue, if_neg (by simp), hn]

theorem exists_readScalar_write {x : Binary64} (h : x.IsProper) :
    ∃ y, ∀ rest, Stops rest → readScalar (x.write numberLayout ++ rest) = .ok (.float y, rest) := by
  cases x with
  | nan => exact ⟨.nan, fun rest _ => rfl⟩
  | infinity negative =>
    cases negative with
    | false => exact ⟨.infinity false, fun rest _ => rfl⟩
    | true => exact ⟨.infinity true, fun rest _ => rfl⟩
  | finite negative mantissa exponent =>
    obtain ⟨whole, part, hwrite, hwhole, hpart⟩ := write_finite negative h exponent
    obtain ⟨y, hy⟩ := readNumber_part negative hwhole hpart
    obtain ⟨hall, hne⟩ := isNumeral_digits hwhole
    obtain ⟨first, digits, rfl⟩ := List.exists_cons_of_ne_nil hne
    have hfirst : first.isDigit := List.all_eq_true.1 hall first List.mem_cons_self
    refine ⟨y, fun rest hrest => ?_⟩
    rw [hwrite]
    cases negative with
    | true =>
      change readScalar ('-' :: first :: (digits ++ part ++ rest)) = _
      have hread := hy ('-' :: first :: (digits ++ part ++ rest)) rest hrest
      rw [readScalar_sign hfirst]
      simpa using hread
    | false =>
      change readScalar (first :: (digits ++ part ++ rest)) = _
      have hread := hy (first :: (digits ++ part ++ rest)) rest hrest
      rw [readScalar_digit hfirst]
      simpa using hread

def rereadNumber (x : Binary64) : Binary64 :=
  match readScalar (x.write numberLayout) with
  | .ok (.float y, _) => y
  | _ => x

theorem readScalar_write {x : Binary64} (h : x.IsProper) (hrest : Stops rest) :
    readScalar (x.write numberLayout ++ rest) = .ok (.float (rereadNumber x), rest) := by
  obtain ⟨y, hy⟩ := exists_readScalar_write h
  have halone := hy [] stops_nil
  rw [List.append_nil] at halone
  rw [rereadNumber, halone, hy rest hrest]

end Values

/-! ## Numerals that are too long -/

theorem skipBlanks_digit {first : Char} (h : first.isDigit) (cs : List Char) :
    skipBlanks (first :: cs) = first :: cs := by
  refine List.dropWhile_cons_of_neg fun hblank => ?_
  simp only [isBlank, Bool.or_eq_true, beq_iff_eq] at hblank
  obtain ((rfl | rfl) | rfl) | rfl := hblank <;> cases h

theorem bind_error {α β : Type} {reading : Except Refusal α} {refusal : Refusal}
    (h : reading = .error refusal) (f : α → Except Refusal β) :
    (reading >>= f) = .error refusal := by
  rw [h]
  rfl

theorem readNumber_tooManyDigits {start digits rest : List Char} {first : Char} {negative : Bool}
    (hdigits : (first :: digits).all Char.isDigit) (hfirst : first ≠ '0')
    (hlong : Text.digitLimit < (first :: digits).length) (hrest : Stops rest) :
    readNumber start negative (first :: (digits ++ rest)) =
      .error (.tooManyDigits (first :: digits).length) := by
  rw [← List.cons_append, readNumber, takeWhile_digits hdigits fun c hc => (hrest c hc).1]
  simp only [if_neg hfirst, List.drop_left, takeFraction_eq_none fun c hc => (hrest c hc).2.1,
    Option.elim_none, takeExponent_eq_none fun c hc => (hrest c hc).2.2, if_pos hlong]

theorem readValue_tooManyDigits {digits rest : List Char} {first : Char} (fuel depth : Nat)
    (hdigits : (first :: digits).all Char.isDigit) (hfirst : first ≠ '0')
    (hlong : Text.digitLimit < (first :: digits).length) (hrest : Stops rest) :
    readValue (fuel + 1) depth (skipBlanks (first :: (digits ++ rest))) =
      .error (.tooManyDigits (first :: digits).length) := by
  have hdigit : first.isDigit = true := by
    rw [List.all_cons, Bool.and_eq_true] at hdigits
    exact hdigits.1
  have hnumber : readScalar (first :: (digits ++ rest)) =
      .error (.tooManyDigits (first :: digits).length) := by
    rw [readScalar_digit hdigit]
    exact readNumber_tooManyDigits hdigits hfirst hlong hrest
  rw [skipBlanks_digit hdigit, ← hnumber, readValue]
  all_goals
    rintro _ heq
    obtain ⟨rfl, _⟩ := List.cons.inj heq
    revert hdigit
    decide

theorem read_field_tooManyDigits {key digits : List Char} {first : Char} (depth : Nat)
    (hkey : ∀ c ∈ key, IsPlain c) (hdigits : (first :: digits).all Char.isDigit)
    (hfirst : first ≠ '0') (hlong : Text.digitLimit < (first :: digits).length) :
    read ('\x7b' :: '\x22' :: (key ++ '\x22' :: ':' :: first :: (digits ++ ['\x7d'])))
      (depth + 1) = .error (.tooManyDigits (first :: digits).length) := by
  have hpairs (fuel : Nat) : readPairs (fuel + 2) depth
      ('\x22' :: (key ++ '\x22' :: ':' :: first :: (digits ++ ['\x7d']))) =
        .error (.tooManyDigits (first :: digits).length) := by
    rw [readPairs, readString_plain _ _ hkey]
    exact bind_error
      (readValue_tooManyDigits fuel depth hdigits hfirst hlong (by simp [Stops])) _
  obtain ⟨fuel, hfuel⟩ : ∃ fuel, 2 * ('\x7b' :: '\x22' :: (key ++ '\x22' :: ':' :: first ::
      (digits ++ ['\x7d']))).length + 2 = fuel + 3 := ⟨_, rfl⟩
  rw [read, if_neg (by simp), hfuel]
  have hobject : readValue (fuel + 3) (depth + 1)
      ('\x7b' :: '\x22' :: (key ++ '\x22' :: ':' :: first :: (digits ++ ['\x7d']))) =
        .error (.tooManyDigits (first :: digits).length) := by
    rw [readValue]
    change (readPairs (fuel + 2) depth _).map _ = _
    rw [hpairs]
    rfl
  exact bind_error hobject _

end NextRelease.Json
