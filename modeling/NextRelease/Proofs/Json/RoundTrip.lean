import NextRelease.Proofs.Json.Numbers

/-! Written documents are read as what was written. Only numbers that are not whole may come back
changed; a value without them comes back as it is. -/

namespace NextRelease

theorem Text.cons_eq_ofChars {c : Char} {R : Text} {out : List Char}
    (h : .scalar c :: R = ofChars out) : ∃ rest, out = c :: rest ∧ R = ofChars rest := by
  obtain ⟨first, rest, rfl, hfirst, hrest⟩ := List.map_eq_cons_iff.1 h.symm
  cases hfirst
  exact ⟨rest, rfl, hrest.symm⟩

theorem Text.append_eq_ofChars {cs : List Char} {R : Text} {out : List Char}
    (h : ofChars cs ++ R = ofChars out) : ∃ rest, out = cs ++ rest ∧ R = ofChars rest := by
  induction cs generalizing out with
  | nil => exact ⟨out, rfl, h⟩
  | cons c cs ih =>
    obtain ⟨back, rfl, hback⟩ := cons_eq_ofChars (show .scalar c :: (ofChars cs ++ R) = _ from h)
    obtain ⟨rest, rfl, hrest⟩ := ih hback
    exact ⟨rest, rfl, hrest⟩

def Text.IsPaired (t : Text) : Prop := ∃ cs, t = ofChars cs

namespace Text.IsPaired

theorem of_string (s : String) : (ofString s).IsPaired := ⟨s.toList, rfl⟩

theorem append {t u : Text} (ht : t.IsPaired) (hu : u.IsPaired) : (t ++ u).IsPaired := by
  obtain ⟨cs, rfl⟩ := ht
  obtain ⟨ds, rfl⟩ := hu
  exact ⟨cs ++ ds, (List.map_append ..).symm⟩

theorem cons {t : Text} (c : Char) (h : t.IsPaired) : Text.IsPaired (.scalar c :: t) :=
  append ⟨[c], rfl⟩ h

theorem toString? {t : Text} (h : t.IsPaired) : ∃ text, t.toString? = some text := by
  obtain ⟨cs, rfl⟩ := h
  exact ⟨String.ofList cs, by rw [Text.toString?, toChars?_ofChars, Option.map_some]⟩

end Text.IsPaired

namespace Json

open FileTree (bind_eq_ok map_eq_ok)

/-! ## What comes back -/

mutual

def reread : Json → Json
  | float x => float (rereadNumber x)
  | arr items => arr (rereadItems items)
  | obj fields => obj (rereadFields fields)
  | value => value

def rereadItems : List Json → List Json
  | [] => []
  | item :: items => item.reread :: rereadItems items

def rereadFields : List (Text × Json) → List (Text × Json)
  | [] => []
  | (key, value) :: fields => (key, value.reread) :: rereadFields fields

end

/-- All numbers of a value are whole. -/
inductive IsWhole : Json → Prop
  | null : IsWhole null
  | bool (b : Bool) : IsWhole (bool b)
  | int (n : Int) : IsWhole (int n)
  | str (t : Text) : IsWhole (str t)
  | arr {items : List Json} : (∀ item ∈ items, IsWhole item) → IsWhole (arr items)
  | obj {fields : List (Text × Json)} : (∀ field ∈ fields, IsWhole field.2) → IsWhole (obj fields)

theorem rereadItems_eq_map (items : List Json) : rereadItems items = items.map reread := by
  induction items with
  | nil => rfl
  | cons item items ih => rw [rereadItems, ih, List.map_cons]

theorem rereadFields_eq_map (fields : List (Text × Json)) :
    rereadFields fields = fields.map fun field => (field.1, field.2.reread) := by
  induction fields with
  | nil => rfl
  | cons field fields ih => rw [rereadFields, ih, List.map_cons]

theorem IsWhole.reread {value : Json} (h : IsWhole value) : value.reread = value := by
  induction h with
  | null => rfl
  | bool b => rfl
  | int n => rfl
  | str t => rfl
  | @arr items _ ih =>
    rw [Json.reread, rereadItems_eq_map, List.map_congr_left ih, List.map_id']
  | @obj fields _ ih =>
    have hsame : ∀ field ∈ fields, (field.1, field.2.reread) = field := fun field hfield => by
      rw [ih field hfield]
    rw [Json.reread, rereadFields_eq_map, List.map_congr_left hsame, List.map_id']

theorem rereadFields_set (key t : Text) (fields : Fields) :
    rereadFields (fields.set key (.str t)) = Fields.set key (.str t) (rereadFields fields) := by
  induction fields with
  | nil => rfl
  | cons field fields ih =>
    obtain ⟨k, v⟩ := field
    by_cases hk : k = key
    · simp [Fields.set, rereadFields, hk, reread]
    · simp [Fields.set, rereadFields, hk, ih]

theorem keys_rereadFields (fields : Fields) :
    Fields.keys (rereadFields fields) = fields.keys := by
  rw [rereadFields_eq_map, Fields.keys, Fields.keys, List.map_map]
  rfl

/-! ## Strings -/

def plainChars (c : Char) : List Char :=
  match shortEscape? c with
  | some escape => escape
  | none => if c.toNat < 0x20 then unitEscape c.toNat else [c]

theorem plainPoint_scalar (c : Char) : plainPoint (.scalar c) = Text.ofChars (plainChars c) := by
  simp only [plainPoint, plainChars]
  cases shortEscape? c with
  | some escape => rfl
  | none =>
    dsimp only
    split <;> rfl

theorem hexValue?_lowerHexDigit : ∀ n < 16, Text.hexValue? (Text.lowerHexDigit n) = some n := by
  decide

theorem readPoints_unitEscape (start : List Char) {n : Nat} (hn : n < 0x10000) {rest : List Char}
    (h : rest ≠ []) : readPoints start (unitEscape n ++ rest) =
      (readPoints start rest).map fun (t, rest) => (CodePoint.ofNat n :: t, rest) := by
  have hdigit (n : Nat) := hexValue?_lowerHexDigit (n % 16) (Nat.mod_lt n (by decide))
  have hspells : Text.hexNumber? (Text.lowerHexDigit (n / 16 / 16 / 16 % 16))
      (Text.lowerHexDigit (n / 16 / 16 % 16)) (Text.lowerHexDigit (n / 16 % 16))
        (Text.lowerHexDigit (n % 16)) = some n := by
    simp only [Text.hexNumber?, hdigit, Option.bind_eq_bind, Option.bind_some, Option.pure_def,
      Option.some.injEq]
    omega
  change readPoints start ('\\' :: 'u' :: _ :: _ :: _ :: _ :: rest) = _
  rw [readPoints, if_neg (by simpa using h)]
  simp only [hspells]

theorem readPoints_shortEscape (start : List Char) {c : Char} {escape : List Char}
    (hescape : shortEscape? c = some escape) (rest : List Char) :
    readPoints start (escape ++ rest) =
      (readPoints start rest).map fun (t, rest) => (.scalar c :: t, rest) := by
  have hletter {letter : Char} (hletter : letter ≠ 'u') (hescaped : escapedChar? letter = some c) :
      readPoints start ('\\' :: letter :: rest) =
        (readPoints start rest).map fun (t, rest) => (.scalar c :: t, rest) := by
    rw [readPoints, if_neg hletter, hescaped]
    intro a b c d cs hu
    exact absurd hu hletter
  unfold shortEscape? at hescape
  split at hescape
  · next hself =>
    cases hescape
    obtain rfl | rfl := hself
    · exact hletter (by decide) rfl
    · exact hletter (by decide) rfl
  · iterate 5
      split at hescape
      · next hc =>
        subst hc
        cases hescape
        exact hletter (by decide) rfl
    cases hescape

theorem readPoints_cons (start : List Char) {c : Char} (hnone : shortEscape? c = none)
    (hcontrol : ¬c.toNat < 0x20) (rest : List Char) :
    readPoints start (c :: rest) =
      (readPoints start rest).map fun (t, rest) => (.scalar c :: t, rest) := by
  have hquote : c ≠ '\x22' := by
    rintro rfl
    cases hnone
  have hescape : c ≠ '\\' := by
    rintro rfl
    cases hnone
  rw [readPoints]
  · rw [if_neg hcontrol]
  all_goals simp [hquote, hescape]

theorem readPoints_plainChars (start : List Char) (c : Char) {rest : List Char} (h : rest ≠ []) :
    readPoints start (plainChars c ++ rest) =
      (readPoints start rest).map fun (t, rest) => (.scalar c :: t, rest) := by
  unfold plainChars
  split
  · next escape hescape => exact readPoints_shortEscape start hescape rest
  · next hnone =>
    split
    · next hcontrol =>
      have hpoint : CodePoint.ofNat c.toNat = .scalar c := by
        rw [CodePoint.ofNat, dif_neg (by omega), Char.ofNat_toNat]
      rw [readPoints_unitEscape start (by omega) h, hpoint]
    · next hcontrol => exact readPoints_cons start hnone hcontrol rest

theorem return_not_mem_plainChars (c : Char) : '\r' ∉ plainChars c := by
  have hcontrols : ∀ n < 0x20, '\r' ∉ unitEscape n := by decide
  unfold plainChars
  split
  · next escape hescape =>
    unfold shortEscape? at hescape
    split at hescape
    · next hself =>
      cases hescape
      obtain rfl | rfl := hself <;> decide
    · iterate 5
        split at hescape
        · cases hescape
          decide
      cases hescape
  · next hnone =>
    split
    · next hcontrol => exact hcontrols _ hcontrol
    · rw [List.mem_singleton]
      rintro rfl
      cases hnone

theorem readString_plainChars (start cs rest : List Char) :
    readString start (cs.flatMap plainChars ++ '\x22' :: rest) = .ok (Text.ofChars cs, rest) := by
  have hpoints : readPoints start (cs.flatMap plainChars ++ '\x22' :: rest) =
      .ok (Text.ofChars cs, rest) := by
    induction cs with
    | nil => rfl
    | cons c cs ih =>
      rw [List.flatMap_cons, List.append_assoc, readPoints_plainChars start c (by simp), ih]
      rfl
  rw [readString, hpoints]
  change Except.ok ((Text.ofChars cs).joinHalves, rest) = _
  rw [Text.joinHalves_ofChars]

theorem exists_chars_of_flatMap {t R : Text} {out : List Char}
    (h : t.flatMap plainPoint ++ R = Text.ofChars out) :
    ∃ cs rest, t = Text.ofChars cs ∧ R = Text.ofChars rest ∧ out = cs.flatMap plainChars ++ rest := by
  induction t generalizing out with
  | nil => exact ⟨[], out, rfl, h, rfl⟩
  | cons p t ih =>
    rw [List.flatMap_cons, List.append_assoc] at h
    cases p with
    | surrogate n =>
      obtain ⟨first, _, _, hfirst, _⟩ := List.map_eq_cons_iff.1 h.symm
      cases hfirst
    | scalar c =>
      rw [plainPoint_scalar] at h
      obtain ⟨back, rfl, hback⟩ := Text.append_eq_ofChars h
      obtain ⟨cs, rest, rfl, hrest, rfl⟩ := ih hback
      exact ⟨c :: cs, rest, rfl, hrest, by rw [List.flatMap_cons, List.append_assoc]⟩

theorem writePlainText_eq {t R : Text} {out : List Char}
    (h : writePlainText t ++ R = Text.ofChars out) :
    ∃ body rest, out = '\x22' :: (body ++ '\x22' :: rest) ∧ R = Text.ofChars rest ∧
      '\r' ∉ body ∧ ∀ start, readString start (body ++ '\x22' :: rest) = .ok (t, rest) := by
  have hall : .scalar '\x22' :: (t.flatMap plainPoint ++ (.scalar '\x22' :: R)) =
      Text.ofChars out := by
    rw [← h, writePlainText, List.cons_append, List.append_assoc, List.singleton_append]
  obtain ⟨later, rfl, hlater⟩ := Text.cons_eq_ofChars hall
  obtain ⟨cs, last, rfl, hlast, rfl⟩ := exists_chars_of_flatMap hlater
  obtain ⟨rest, rfl, hrest⟩ := Text.cons_eq_ofChars hlast
  refine ⟨cs.flatMap plainChars, rest, rfl, hrest, fun hmem => ?_,
    fun start => readString_plainChars start cs rest⟩
  obtain ⟨c, _, hc⟩ := List.mem_flatMap.1 hmem
  exact return_not_mem_plainChars c hc

/-! ## Values -/

theorem skipBlanks_newLine (n : Nat) (rest : List Char) :
    skipBlanks ('\n' :: (List.replicate n ' ' ++ rest)) = skipBlanks rest := by
  rw [← List.cons_append]
  refine List.dropWhile_append_of_pos fun c hc => ?_
  obtain rfl | hc := List.mem_cons.1 hc
  · rfl
  · rw [List.eq_of_mem_replicate hc]
    rfl

theorem newLine_eq_ofChars {depth : Nat} {R : Text} {out : List Char}
    (h : newLine depth R = Text.ofChars out) :
    ∃ rest, out = '\n' :: (List.replicate (2 * depth) ' ' ++ rest) ∧ R = Text.ofChars rest := by
  have hspaces : newLine depth R =
      Text.ofChars ('\n' :: List.replicate (2 * depth) ' ') ++ R := by
    rw [newLine, ← List.replicate_eq_replicateTR, Text.ofChars, List.map_cons, List.map_replicate]
  exact Text.append_eq_ofChars (hspaces.symm.trans h)

theorem readValue_eq_readScalar {cs : List Char} {read : Json × List Char}
    (h : readScalar cs = .ok read) (fuel depth : Nat) :
    readValue (fuel + 1) depth cs = .ok read := by
  unfold readValue
  split
  · cases h
  · cases h
  · cases h
  · exact h

theorem head_of_readValue {fuel depth : Nat} {cs : List Char} {read : Json × List Char}
    (h : readValue fuel depth cs = .ok read) :
    ∃ c rest, cs = c :: rest ∧ isBlank c = false ∧ c ≠ ']' := by
  cases fuel with
  | zero => cases h
  | succ fuel =>
    cases cs with
    | nil => cases h
    | cons c rest =>
      refine ⟨c, rest, rfl, ?_, ?_⟩
      · rw [← Bool.not_eq_true]
        intro hblank
        simp only [isBlank, Bool.or_eq_true, beq_iff_eq] at hblank
        obtain ((rfl | rfl) | rfl) | rfl := hblank
        · cases h
        · cases h
        · cases h
        · cases h
      · rintro rfl
        cases h

def ReadsBack (depth : Nat) (value : Json) : Prop :=
  ∀ level R out, indentedOnto writePlainText level value R = Text.ofChars out →
    ∃ front rest, out = front ++ rest ∧ R = Text.ofChars rest ∧ front ≠ [] ∧ '\r' ∉ front ∧
      (Stops rest → ∀ fuel, 2 * out.length ≤ fuel →
        readValue fuel depth out = .ok (value.reread, rest))

theorem readsBack_of_readScalar {depth : Nat} {value : Json} {front : List Char}
    (hreturn : '\r' ∉ front)
    (hwrite : ∀ level R, indentedOnto writePlainText level value R = Text.ofChars front ++ R)
    (hread : ∀ rest, Stops rest → readScalar (front ++ rest) = .ok (value.reread, rest)) :
    ReadsBack depth value := by
  have hne : front ≠ [] := by
    rintro rfl
    cases hread [] stops_nil
  intro level R out h
  rw [hwrite] at h
  obtain ⟨rest, rfl, hrest⟩ := Text.append_eq_ofChars h
  refine ⟨front, rest, rfl, hrest, hne, hreturn, fun hstops fuel hfuel => ?_⟩
  have hlength := List.length_pos_iff.2 hne
  rw [List.length_append] at hfuel
  obtain ⟨fuel, rfl⟩ := Nat.exists_eq_succ_of_ne_zero (show fuel ≠ 0 by omega)
  exact readValue_eq_readScalar (hread rest hstops) fuel depth

theorem exists_succ_of_le {c : Char} {cs : List Char} {fuel : Nat}
    (h : 2 * (c :: cs).length ≤ fuel) :
    ∃ less, fuel = less + 1 ∧ 2 * cs.length + 1 ≤ less := by
  rw [List.length_cons] at h
  exact ⟨fuel - 1, by omega, by omega⟩

theorem readsBack_str (depth : Nat) (t : Text) : ReadsBack depth (.str t) := by
  intro level R out h
  obtain ⟨body, rest, rfl, hrest, hreturn, hread⟩ := writePlainText_eq (show writePlainText t ++ R = _
    from by rw [← h, indentedOnto])
  refine ⟨'\x22' :: (body ++ ['\x22']), rest, by simp, hrest, by simp, by simp [hreturn],
    fun _ fuel hfuel => ?_⟩
  obtain ⟨fuel, rfl, _⟩ := exists_succ_of_le hfuel
  rw [readValue, hread]
  rfl

/-! ## Containers -/

section Containers

variable {fuel depth : Nat} {cs cs' more rest : List Char} {value : Json}

theorem readItems_last (h : readValue fuel depth cs = .ok (value, cs'))
    (hclose : skipBlanks cs' = ']' :: rest) :
    readItems (fuel + 1) depth cs = .ok ([value], rest) := by
  rw [readItems]
  refine bind_eq_ok.2 ⟨_, h, ?_⟩
  dsimp only
  rw [hclose]
  rfl

theorem readItems_next {items : List Json} (h : readValue fuel depth cs = .ok (value, cs'))
    (hcomma : skipBlanks cs' = ',' :: more)
    (hmore : readItems fuel depth (skipBlanks more) = .ok (items, rest)) :
    readItems (fuel + 1) depth cs = .ok (value :: items, rest) := by
  rw [readItems]
  refine bind_eq_ok.2 ⟨_, h, ?_⟩
  dsimp only
  rw [hcomma]
  exact bind_eq_ok.2 ⟨_, hmore, rfl⟩

theorem stops_cons {c : Char} (h : c.isDigit = false ∧ c ≠ '.' ∧ c ≠ 'e' ∧ c ≠ 'E')
    (rest : List Char) : Stops (c :: rest) := by
  intro c' hc'
  cases hc'
  exact h

theorem readPairs_last {key : Text} {body : List Char}
    (hkey : ∀ start, readString start body = .ok (key, ':' :: ' ' :: cs))
    (h : readValue fuel depth (skipBlanks cs) = .ok (value, cs'))
    (hclose : skipBlanks cs' = '\x7d' :: rest) :
    readPairs (fuel + 1) depth ('\x22' :: body) = .ok ([(key, value)], rest) := by
  rw [readPairs]
  refine bind_eq_ok.2 ⟨_, hkey _, bind_eq_ok.2 ⟨_, h, ?_⟩⟩
  dsimp only
  rw [hclose]
  rfl

theorem readPairs_next {key : Text} {body : List Char} {pairs : List (Text × Json)}
    (hkey : ∀ start, readString start body = .ok (key, ':' :: ' ' :: cs))
    (h : readValue fuel depth (skipBlanks cs) = .ok (value, cs'))
    (hcomma : skipBlanks cs' = ',' :: more)
    (hmore : readPairs fuel depth (skipBlanks more) = .ok (pairs, rest)) :
    readPairs (fuel + 1) depth ('\x22' :: body) = .ok ((key, value) :: pairs, rest) := by
  rw [readPairs]
  refine bind_eq_ok.2 ⟨_, hkey _, bind_eq_ok.2 ⟨_, h, ?_⟩⟩
  dsimp only
  rw [hcomma]
  exact bind_eq_ok.2 ⟨_, hmore, rfl⟩

theorem skipBlanks_of_readValue {read : Json × List Char} (h : readValue fuel depth cs = .ok read) :
    skipBlanks cs = cs := by
  obtain ⟨c, rest, rfl, hblank, _⟩ := head_of_readValue h
  exact List.dropWhile_cons_of_neg (by rw [hblank]; decide)

theorem closing_written {outer : Nat} {c : Char} (hblank : isBlank c = false) {R : Text}
    {out : List Char} (h : newLine outer (.scalar c :: R) = Text.ofChars out) :
    ∃ front rest, out = front ++ rest ∧ R = Text.ofChars rest ∧ '\r' ∉ front ∧ Stops out ∧
      skipBlanks out = c :: rest := by
  have hc : '\r' ≠ c := by
    rintro rfl
    cases hblank
  obtain ⟨line, rfl, hline⟩ := newLine_eq_ofChars h
  obtain ⟨rest, rfl, hrest⟩ := Text.cons_eq_ofChars hline
  refine ⟨'\n' :: (List.replicate (2 * outer) ' ' ++ [c]), rest, by simp, hrest, by simp [hc],
    stops_cons (by decide) _, ?_⟩
  rw [skipBlanks_newLine]
  exact List.dropWhile_cons_of_neg (by rw [hblank]; decide)

theorem item_written {item : Json} (hitem : ReadsBack depth item) {level : Nat} {R : Text}
    {out : List Char}
    (h : newLine level (indentedOnto writePlainText level item R) = Text.ofChars out) :
    ∃ front rest, out = front ++ rest ∧ R = Text.ofChars rest ∧ '\r' ∉ front ∧
      (Stops rest → ∀ fuel, 2 * out.length ≤ fuel →
        readValue fuel depth (skipBlanks out) = .ok (item.reread, rest)) := by
  obtain ⟨line, rfl, hline⟩ := newLine_eq_ofChars h
  obtain ⟨front, rest, rfl, hrest, _, hreturn, hread⟩ := hitem _ _ _ hline
  refine ⟨'\n' :: (List.replicate (2 * level) ' ' ++ front), rest, by simp, hrest,
    by simp [hreturn], fun hstops fuel hfuel => ?_⟩
  have hvalue := hread hstops fuel (by simp at hfuel ⊢; omega)
  rwa [skipBlanks_newLine, skipBlanks_of_readValue hvalue]

theorem readItems_written {items : List Json} (hne : items ≠ [])
    (hitems : ∀ item ∈ items, ReadsBack depth item) {level outer : Nat} {R : Text} {out : List Char}
    (h : indentedItems writePlainText level items (newLine outer (.scalar ']' :: R)) =
      Text.ofChars out) :
    ∃ front rest, out = front ++ rest ∧ R = Text.ofChars rest ∧ '\r' ∉ front ∧
      ∀ fuel, 2 * out.length + 1 ≤ fuel →
        readItems fuel depth (skipBlanks out) = .ok (rereadItems items, rest) := by
  induction items generalizing out with
  | nil => exact absurd rfl hne
  | cons item items ih =>
    have hitem := hitems item List.mem_cons_self
    cases items with
    | nil =>
      rw [indentedItems] at h
      obtain ⟨front, back, rfl, hback, hreturn, hread⟩ := item_written hitem h
      obtain ⟨last, rest, rfl, hrest, hlast, hstops, hclose⟩ := closing_written rfl hback
      refine ⟨front ++ last, rest, by simp, hrest, by simp [hreturn, hlast], fun fuel hfuel => ?_⟩
      obtain ⟨fuel, rfl⟩ := Nat.exists_eq_succ_of_ne_zero (show fuel ≠ 0 by omega)
      exact readItems_last (hread hstops fuel (by omega)) hclose
    | cons next items =>
      rw [indentedItems] at h
      swap
      · exact List.cons_ne_nil _ _
      obtain ⟨front, back, rfl, hback, hreturn, hread⟩ := item_written hitem h
      obtain ⟨more, rfl, hmore⟩ := Text.cons_eq_ofChars hback
      obtain ⟨later, rest, rfl, hrest, hreturn', hitems'⟩ := ih (List.cons_ne_nil _ _)
        (fun other hother => hitems other (List.mem_cons_of_mem _ hother)) hmore
      refine ⟨front ++ ',' :: later, rest, by simp, hrest, by simp [hreturn, hreturn'],
        fun fuel hfuel => ?_⟩
      obtain ⟨fuel, rfl⟩ := Nat.exists_eq_succ_of_ne_zero (show fuel ≠ 0 by omega)
      exact readItems_next (hread (stops_cons (by decide) _) fuel (by omega)) rfl
        (hitems' fuel (by simp at hfuel ⊢; omega))

theorem field_written {key : Text} (hvalue : ReadsBack depth value) {level : Nat} {R : Text}
    {out : List Char}
    (h : newLine level (writePlainText key ++ Text.ofString ": " ++
      indentedOnto writePlainText level value R) = Text.ofChars out) :
    ∃ front rest, out = front ++ rest ∧ R = Text.ofChars rest ∧ '\r' ∉ front ∧
      ∃ body cs, skipBlanks out = '\x22' :: body ∧
        (∀ start, readString start body = .ok (key, ':' :: ' ' :: cs)) ∧
        (Stops rest → ∀ fuel, 2 * out.length ≤ fuel →
          readValue fuel depth (skipBlanks cs) = .ok (value.reread, rest)) := by
  obtain ⟨line, rfl, hline⟩ := newLine_eq_ofChars h
  obtain ⟨body, colon, rfl, hcolon, hbody, hkey⟩ := writePlainText_eq (List.append_assoc .. ▸ hline)
  obtain ⟨first, rfl, hfirst⟩ := Text.append_eq_ofChars hcolon
  obtain ⟨front, rest, rfl, hrest, _, hreturn, hread⟩ := hvalue _ _ _ hfirst
  refine ⟨'\n' :: (List.replicate (2 * level) ' ' ++ '\x22' :: (body ++ '\x22' :: ':' :: ' ' ::
    front)), rest, by simp, hrest, by simp [hreturn, hbody], _, front ++ rest,
    skipBlanks_newLine _ _, hkey, fun hstops fuel hfuel => ?_⟩
  have hfound := hread hstops fuel (by simp at hfuel ⊢; omega)
  rwa [skipBlanks_of_readValue hfound]

theorem readPairs_written {fields : List (Text × Json)} (hne : fields ≠ [])
    (hfields : ∀ field ∈ fields, ReadsBack depth field.2) {level outer : Nat} {R : Text}
    {out : List Char}
    (h : indentedFields writePlainText level fields (newLine outer (.scalar '\x7d' :: R)) =
      Text.ofChars out) :
    ∃ front rest, out = front ++ rest ∧ R = Text.ofChars rest ∧ '\r' ∉ front ∧
      ∀ fuel, 2 * out.length + 1 ≤ fuel →
        readPairs fuel depth (skipBlanks out) = .ok (rereadFields fields, rest) := by
  induction fields generalizing out with
  | nil => exact absurd rfl hne
  | cons field fields ih =>
    obtain ⟨key, value⟩ := field
    have hvalue := hfields _ List.mem_cons_self
    cases fields with
    | nil =>
      rw [indentedFields] at h
      obtain ⟨front, back, rfl, hback, hreturn, body, cs, hbody, hkey, hread⟩ :=
        field_written hvalue h
      obtain ⟨last, rest, rfl, hrest, hlast, hstops, hclose⟩ := closing_written rfl hback
      refine ⟨front ++ last, rest, by simp, hrest, by simp [hreturn, hlast], fun fuel hfuel => ?_⟩
      obtain ⟨fuel, rfl⟩ := Nat.exists_eq_succ_of_ne_zero (show fuel ≠ 0 by omega)
      rw [hbody]
      exact readPairs_last hkey (hread hstops fuel (by omega)) hclose
    | cons next fields =>
      rw [indentedFields] at h
      swap
      · exact List.cons_ne_nil _ _
      obtain ⟨front, back, rfl, hback, hreturn, body, cs, hbody, hkey, hread⟩ :=
        field_written hvalue h
      obtain ⟨more, rfl, hmore⟩ := Text.cons_eq_ofChars hback
      obtain ⟨later, rest, rfl, hrest, hreturn', hfields'⟩ := ih (List.cons_ne_nil _ _)
        (fun other hother => hfields other (List.mem_cons_of_mem _ hother)) hmore
      refine ⟨front ++ ',' :: later, rest, by simp, hrest, by simp [hreturn, hreturn'],
        fun fuel hfuel => ?_⟩
      obtain ⟨fuel, rfl⟩ := Nat.exists_eq_succ_of_ne_zero (show fuel ≠ 0 by omega)
      rw [hbody]
      exact readPairs_next hkey (hread (stops_cons (by decide) _) fuel (by omega)) rfl
        (hfields' fuel (by simp at hfuel ⊢; omega))

end Containers

/-! ## Whole values -/

section Values

variable {fuel depth : Nat} {cs rest : List Char}

theorem readValue_arr {items : List Json}
    (h : readItems fuel depth (skipBlanks cs) = .ok (items, rest)) :
    readValue (fuel + 1) (depth + 1) ('[' :: cs) = .ok (.arr items, rest) := by
  have hopen : ∀ rest', skipBlanks cs ≠ ']' :: rest' := by
    intro rest' hclose
    rw [hclose] at h
    cases fuel with
    | zero => cases h
    | succ fuel =>
      rw [readItems] at h
      obtain ⟨_, hvalue, _⟩ := bind_eq_ok.1 h
      obtain ⟨c, _, hc, _, hne⟩ := head_of_readValue hvalue
      cases hc
      exact hne rfl
  rw [readValue]
  dsimp only
  split
  · next heq => exact absurd heq (hopen _)
  · rw [h]
    rfl

theorem readValue_obj {pairs : List (Text × Json)}
    (h : readPairs fuel depth (skipBlanks cs) = .ok (pairs, rest)) :
    readValue (fuel + 1) (depth + 1) ('\x7b' :: cs) = .ok (.obj (Fields.ofPairs pairs), rest) := by
  have hopen : ∀ rest', skipBlanks cs ≠ '\x7d' :: rest' := by
    intro rest' hclose
    rw [hclose] at h
    cases fuel with
    | zero => cases h
    | succ fuel => cases h
  rw [readValue]
  dsimp only
  split
  · next heq => exact absurd heq (hopen _)
  · rw [h]
    rfl

end Values

theorem readsBack_arr {depth : Nat} {items : List Json}
    (hitems : ∀ item ∈ items, ReadsBack depth item) : ReadsBack (depth + 1) (.arr items) := by
  intro level R out h
  by_cases hnil : items = []
  · subst hnil
    obtain ⟨rest, rfl, hrest⟩ := Text.append_eq_ofChars (show Text.ofString "[]" ++ R = _ from h)
    refine ⟨['[', ']'], rest, rfl, hrest, by simp, by decide, fun _ fuel hfuel => ?_⟩
    obtain ⟨fuel, rfl, _⟩ := exists_succ_of_le hfuel
    rfl
  · rw [indentedOnto] at h
    swap
    · exact hnil
    obtain ⟨later, rfl, hlater⟩ := Text.cons_eq_ofChars h
    obtain ⟨front, rest, rfl, hrest, hreturn, hread⟩ := readItems_written hnil hitems hlater
    refine ⟨'[' :: front, rest, rfl, hrest, by simp, by simp [hreturn], fun _ fuel hfuel => ?_⟩
    obtain ⟨fuel, rfl, hless⟩ := exists_succ_of_le hfuel
    exact readValue_arr (hread fuel hless)

theorem readsBack_obj {depth : Nat} {fields : Fields} (hkeys : fields.keys.Nodup)
    (hfields : ∀ field ∈ fields, ReadsBack depth field.2) : ReadsBack (depth + 1) (.obj fields) := by
  intro level R out h
  by_cases hnil : fields = []
  · subst hnil
    obtain ⟨rest, rfl, hrest⟩ := Text.append_eq_ofChars
      (show Text.ofString "\x7b\x7d" ++ R = _ from h)
    refine ⟨['\x7b', '\x7d'], rest, rfl, hrest, by simp, by decide, fun _ fuel hfuel => ?_⟩
    obtain ⟨fuel, rfl, _⟩ := exists_succ_of_le hfuel
    rfl
  · rw [indentedOnto] at h
    swap
    · exact hnil
    obtain ⟨later, rfl, hlater⟩ := Text.cons_eq_ofChars h
    obtain ⟨front, rest, rfl, hrest, hreturn, hread⟩ := readPairs_written hnil hfields hlater
    refine ⟨'\x7b' :: front, rest, rfl, hrest, by simp, by simp [hreturn], fun _ fuel hfuel => ?_⟩
    obtain ⟨fuel, rfl, hless⟩ := exists_succ_of_le hfuel
    -- The keys differ, so no field is dropped when the pairs become an object.
    rw [readValue_obj (hread fuel hless), Fields.ofPairs_eq_self (by rwa [keys_rereadFields]), reread]

theorem Fits.readsBack {depth : Nat} {value : Json} (h : Fits depth value) :
    ReadsBack depth value := by
  induction h with
  | null => exact readsBack_of_readScalar (by decide) (fun _ _ => rfl) fun _ _ => rfl
  | bool b =>
    cases b with
    | false => exact readsBack_of_readScalar (by decide) (fun _ _ => rfl) fun _ _ => rfl
    | true => exact readsBack_of_readScalar (by decide) (fun _ _ => rfl) fun _ _ => rfl
  | @int depth n hnumeral =>
    exact readsBack_of_readScalar (return_not_mem_writeInt n) (fun _ _ => rfl)
      fun rest hrest => readScalar_writeInt hnumeral hrest
  | @float depth x hproper =>
    exact readsBack_of_readScalar (return_not_mem_write hproper) (fun _ _ => rfl)
      fun rest hrest => readScalar_write hproper hrest
  | str t => exact readsBack_str _ t
  | arr _ ih => exact readsBack_arr ih
  | obj hkeys _ ih => exact readsBack_obj hkeys ih

theorem newLine_append (level : Nat) (R S : Text) : newLine level R ++ S = newLine level (R ++ S) :=
  List.append_assoc ..

mutual

theorem indentedOnto_append (form : TextForm) (level : Nat) (value : Json) (R S : Text) :
    indentedOnto form level value R ++ S = indentedOnto form level value (R ++ S) := by
  match value with
  | .null | .bool _ | .int _ | .float _ | .str _ | .arr [] | .obj [] =>
    simp only [indentedOnto, List.append_assoc]
  | .arr (item :: items) =>
    simp only [indentedOnto]
    rw [List.cons_append, indentedItems_append, newLine_append, List.cons_append]
  | .obj (field :: fields) =>
    simp only [indentedOnto]
    rw [List.cons_append, indentedFields_append, newLine_append, List.cons_append]

theorem indentedItems_append (form : TextForm) (level : Nat) (items : List Json) (R S : Text) :
    indentedItems form level items R ++ S = indentedItems form level items (R ++ S) := by
  match items with
  | [] => simp only [indentedItems]
  | [item] => simp only [indentedItems, newLine_append, indentedOnto_append form level item]
  | item :: next :: items =>
    simp only [indentedItems, newLine_append, indentedOnto_append form level item, List.cons_append,
      indentedItems_append form level (next :: items)]

theorem indentedFields_append (form : TextForm) (level : Nat) (fields : List (Text × Json))
    (R S : Text) :
    indentedFields form level fields R ++ S = indentedFields form level fields (R ++ S) := by
  match fields with
  | [] => simp only [indentedFields]
  | [(key, value)] =>
    simp only [indentedFields, newLine_append, List.append_assoc, indentedOnto_append form level value]
  | (key, value) :: next :: fields =>
    simp only [indentedFields, newLine_append, List.append_assoc, indentedOnto_append form level value,
      List.cons_append, indentedFields_append form level (next :: fields)]

end

theorem read_document {fields : Fields} {depth : Nat} {cs : List Char}
    (h : Fits depth (.obj fields)) (hcs : document (.obj fields) = Text.ofChars cs) :
    read cs depth = .ok (Json.obj fields).reread ∧ '\r' ∉ cs := by
  rw [document, writeIndented, indentedOnto_append, List.nil_append] at hcs
  obtain ⟨front, rest, rfl, hrest, hsome, hreturn, hread⟩ := h.readsBack 0 _ _ hcs
  obtain ⟨last, rfl, hlast⟩ := Text.cons_eq_ofChars hrest
  obtain rfl : last = [] := List.map_eq_nil_iff.1 hlast.symm
  have hvalue := hread (stops_cons (by decide) []) (2 * (front ++ ['\n']).length + 2) (by omega)
  refine ⟨?_, by simp [hreturn]⟩
  have hmark : (front ++ ['\n']).head? ≠ some '\uFEFF' := by
    intro hhead
    obtain ⟨later, hlater⟩ := List.head?_eq_some_iff.1 hhead
    rw [hlater] at hvalue
    cases hvalue
  rw [read, if_neg hmark, skipBlanks_of_readValue hvalue]
  exact bind_eq_ok.2 ⟨_, hvalue, rfl⟩

end Json

end NextRelease
