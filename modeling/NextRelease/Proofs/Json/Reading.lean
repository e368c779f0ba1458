import NextRelease.Json.Reader
import NextRelease.Proofs.Files.Change
import NextRelease.Proofs.Number.Shortest
import NextRelease.Proofs.Text.Pieces

/-! What is read from JSON text: numerals that are short enough to be written again, numbers with proper
mantissas, objects in which each key appears once, and no more levels than there may be. -/

namespace NextRelease

namespace Text

theorem joinHalves_ofChars (cs : List Char) : joinHalves (ofChars cs) = ofChars cs := by
  induction cs with
  | nil => rfl
  | cons c cs ih => exact congrArg (_ :: ·) ih

theorem decode?_toUTF8 {s : String} (h : '\r' ∉ s.toList) : decode? s.toUTF8 = some s := by
  have hread : String.fromUTF8? s.toUTF8 = some s := by
    simp only [String.fromUTF8?, String.toUTF8_eq_toByteArray, dif_pos s.isValidUTF8]
    rfl
  have hlines {cs : List Char} (h : '\r' ∉ cs) : unifyNewlines cs = cs := by
    fun_induction unifyNewlines cs with
    | case1 => rfl
    | case2 => simp at h
    | case3 c cs _ ih => grind
  rw [decode?, hread, Option.map_some, hlines h, String.ofList_toList]

end Text

namespace Fields

variable {key other : Text} {value : Json} {fields : Fields}

theorem get?_set (key other : Text) (value : Json) (fields : Fields) :
    (fields.set key value).get? other = if other = key then some value else fields.get? other := by
  induction fields with
  | nil => simp [set, get?, eq_comm]
  | cons field fields ih =>
    obtain ⟨k, v⟩ := field
    by_cases hk : k = key
    · subst hk
      by_cases hother : k = other
      · subst hother
        simp [set, get?]
      · simp [set, get?, hother, Ne.symm hother]
    · by_cases hother : k = other
      · subst hother
        simp [set, get?, hk]
      · simp only [set, if_neg hk, get?, if_neg hother, ih]

theorem keys_cons (field : Text × Json) (fields : Fields) :
    keys (field :: fields) = field.1 :: fields.keys := rfl

theorem keys_set (key : Text) (value : Json) (fields : Fields) :
    (fields.set key value).keys = if key ∈ fields.keys then fields.keys else fields.keys ++ [key] := by
  induction fields with
  | nil => rfl
  | cons field fields ih =>
    obtain ⟨k, v⟩ := field
    by_cases hk : k = key
    · subst hk
      simp [set, keys_cons]
    · simp only [set, if_neg hk, keys_cons, ih, List.mem_cons, Ne.symm hk, false_or]
      split <;> rfl

theorem nodup_keys_set (h : fields.keys.Nodup) (key : Text) (value : Json) :
    (fields.set key value).keys.Nodup := by
  rw [keys_set]
  split
  · exact h
  · next hnot => exact List.concat_eq_append ▸ h.concat hnot

theorem contains_iff : fields.contains key ↔ key ∈ fields.keys := by
  induction fields with
  | nil => simp [contains, get?, keys]
  | cons field fields ih =>
    obtain ⟨k, v⟩ := field
    rw [contains] at ih
    by_cases hk : k = key
    · simp [contains, get?, keys, hk]
    · simp [contains, get?, keys_cons, hk, ih, Ne.symm hk]

theorem get?_eq_some_iff (h : fields.keys.Nodup) :
    fields.get? key = some value ↔ (key, value) ∈ fields := by
  induction fields with
  | nil => simp [get?]
  | cons field fields ih =>
    obtain ⟨k, v⟩ := field
    rw [keys_cons] at h
    obtain ⟨hnot, hfields⟩ := List.nodup_cons.1 h
    by_cases hk : k = key
    · subst hk
      have hmem : (k, value) ∉ fields := fun hmem => hnot (List.mem_map_of_mem (f := (·.1)) hmem)
      simp [get?, hmem, eq_comm]
    · simp [get?, hk, Ne.symm hk, ih hfields]

theorem get?_perm {fields' : Fields} (h : fields.keys.Nodup) (hperm : fields'.Perm fields) (key : Text) :
    fields'.get? key = fields.get? key := by
  have h' : fields'.keys.Nodup := ((hperm.map Prod.fst).nodup_iff).2 h
  refine Option.ext fun value => ?_
  rw [get?_eq_some_iff h', get?_eq_some_iff h, hperm.mem_iff]

theorem mem_set {field : Text × Json} (h : field ∈ fields.set key value) :
    field = (key, value) ∨ field ∈ fields := by
  induction fields with
  | nil => exact .inl (List.mem_singleton.1 h)
  | cons first fields ih =>
    obtain ⟨k, v⟩ := first
    unfold set at h
    split at h
    · next hk =>
      subst hk
      exact (List.mem_cons.1 h).imp_right (List.mem_cons_of_mem _)
    · obtain rfl | hmem := List.mem_cons.1 h
      · exact .inr List.mem_cons_self
      · exact (ih hmem).imp_right (List.mem_cons_of_mem _)

theorem set_of_not_mem (h : key ∉ fields.keys) (value : Json) :
    fields.set key value = fields ++ [(key, value)] := by
  induction fields with
  | nil => rfl
  | cons first fields ih =>
    obtain ⟨k, v⟩ := first
    simp only [keys, List.map_cons, List.mem_cons, not_or] at h
    rw [set, if_neg (Ne.symm h.1), ih h.2, List.cons_append]

theorem nodup_keys_ofPairs (pairs : List (Text × Json)) : (ofPairs pairs).keys.Nodup := by
  suffices h : ∀ fields : Fields, fields.keys.Nodup →
      (pairs.foldl (fun fields pair => set pair.1 pair.2 fields) fields).keys.Nodup from
    h [] List.nodup_nil
  induction pairs with
  | nil => exact fun _ h => h
  | cons pair pairs ih => exact fun fields h => ih _ (nodup_keys_set h _ _)

theorem mem_ofPairs {pairs : List (Text × Json)} {field : Text × Json} (h : field ∈ ofPairs pairs) :
    field ∈ pairs := by
  suffices hall : ∀ fields : Fields,
      field ∈ pairs.foldl (fun fields pair => set pair.1 pair.2 fields) fields →
        field ∈ pairs ∨ field ∈ fields from
    (hall [] h).resolve_right List.not_mem_nil
  clear h
  induction pairs with
  | nil => exact fun _ h => .inr h
  | cons pair pairs ih =>
    intro fields h
    obtain hmem | hmem := ih _ h
    · exact .inl (List.mem_cons_of_mem _ hmem)
    · obtain rfl | hmem := mem_set hmem
      · exact .inl List.mem_cons_self
      · exact .inr hmem

theorem ofPairs_eq_self {pairs : List (Text × Json)} (h : (keys pairs).Nodup) :
    ofPairs pairs = pairs := by
  suffices hall : ∀ fields : Fields, (keys (fields ++ pairs)).Nodup →
      pairs.foldl (fun fields pair => set pair.1 pair.2 fields) fields = fields ++ pairs from hall [] h
  clear h
  induction pairs with
  | nil => exact fun fields _ => (List.append_nil fields).symm
  | cons pair pairs ih =>
    intro fields h
    have hnew : pair.1 ∉ keys fields := by
      intro hmem
      simp only [keys, List.map_append, List.map_cons] at h
      exact (List.nodup_append.1 h).2.2 _ hmem _ List.mem_cons_self rfl
    rw [List.foldl_cons, set_of_not_mem hnew, ih, List.append_assoc, List.singleton_append]
    rwa [List.append_assoc, List.singleton_append]

end Fields

namespace Json

open FileTree (bind_eq_ok map_eq_ok)

inductive Fits : Nat → Json → Prop
  | null {depth : Nat} : Fits depth null
  | bool {depth : Nat} (b : Bool) : Fits depth (bool b)
  | int {depth : Nat} {n : Int} : Text.hasNumeral n.natAbs → Fits depth (int n)
  | float {depth : Nat} {x : Binary64} : x.IsProper → Fits depth (float x)
  | str {depth : Nat} (t : Text) : Fits depth (str t)
  | arr {depth : Nat} {items : List Json} : (∀ item ∈ items, Fits depth item) →
      Fits (depth + 1) (arr items)
  | obj {depth : Nat} {fields : Fields} : fields.keys.Nodup →
      (∀ field ∈ fields, Fits depth field.2) → Fits (depth + 1) (obj fields)

theorem Fits.set {depth : Nat} {fields : Fields} (h : Fits depth (.obj fields)) (key t : Text) :
    Fits depth (.obj (fields.set key (.str t))) := by
  cases h with
  | obj hkeys hfields =>
    refine .obj (Fields.nodup_keys_set hkeys _ _) fun field hfield => ?_
    obtain rfl | hfield := Fields.mem_set hfield
    · exact .str t
    · exact hfields field hfield

/-! ## Numbers and words -/

theorem fits_of_readNumber {start cs rest : List Char} {negative : Bool} {value : Json} (depth : Nat)
    (h : readNumber start negative cs = .ok (value, rest)) : Fits depth value := by
  unfold readNumber at h
  generalize hdigits : cs.takeWhile Char.isDigit = digits at h
  cases digits with
  | nil => cases h
  | cons first digits =>
    dsimp only at h
    generalize hwhole : (if first = '0' then ['0'] else first :: digits) = whole at h
    have hall : whole.all Char.isDigit := by
      rw [← hwhole]
      split
      · rfl
      · rw [← hdigits]
        exact List.all_takeWhile
    split at h
    · split at h
      · cases h
      · next hlength =>
        cases h
        refine .int ?_
        have hnumeral := Text.hasNumeral_ofDigitChars hall (Nat.not_lt.1 hlength)
        split
        · rwa [Int.natAbs_neg, Int.natAbs_natCast]
        · rwa [Int.natAbs_natCast]
    · cases h
      exact .float (Binary64.isProper_ofDecimal _ _ _)

theorem fits_of_readScalar {cs rest : List Char} {value : Json} (depth : Nat)
    (h : readScalar cs = .ok (value, rest)) : Fits depth value := by
  unfold readScalar at h
  extract_lets word at h
  have hword {w : String} {v : Json} {otherwise : Reading Json} (hv : Fits depth v)
      (hother : otherwise = .ok (value, rest) → Fits depth value)
      (h : word w v otherwise = .ok (value, rest)) : Fits depth value := by
    unfold word at h
    split at h
    · cases h
      exact hv
    · exact hother h
  have hfloat {x : Binary64} (hx : x.IsProper) : Fits depth (.float x) := .float hx
  refine hword .null (hword (.bool _) (hword (.bool _) (hword (hfloat (x := .nan) trivial)
    (hword (hfloat (x := .infinity false) trivial)
      (hword (hfloat (x := .infinity true) trivial) fun h => ?_))))) h
  split at h
  · exact fits_of_readNumber depth h
  · exact fits_of_readNumber depth h

/-! ## Values -/

structure Fitting (fuel : Nat) : Prop where
  value {depth : Nat} {cs rest : List Char} {value : Json} :
    readValue fuel depth cs = .ok (value, rest) → Fits depth value
  items {depth : Nat} {cs rest : List Char} {items : List Json} :
    readItems fuel depth cs = .ok (items, rest) → ∀ item ∈ items, Fits depth item
  pairs {depth : Nat} {cs rest : List Char} {pairs : List (Text × Json)} :
    readPairs fuel depth cs = .ok (pairs, rest) → ∀ pair ∈ pairs, Fits depth pair.2

section

variable {fuel depth : Nat} {cs rest : List Char}

theorem Fitting.value_succ {value : Json} (ih : Fitting fuel)
    (h : readValue (fuel + 1) depth cs = .ok (value, rest)) : Fits depth value := by
  unfold readValue at h
  split at h
  · obtain ⟨_, _, hvalue⟩ := map_eq_ok.1 h
    cases hvalue
    exact .str _
  · split at h
    · cases h
    · next depth =>
      split at h
      · cases h
        exact .arr (by simp)
      · obtain ⟨⟨items, _⟩, hitems, hvalue⟩ := map_eq_ok.1 h
        cases hvalue
        exact .arr (ih.items hitems)
  · split at h
    · cases h
    · next depth =>
      split at h
      · cases h
        exact .obj List.nodup_nil (by simp)
      · obtain ⟨⟨pairs, _⟩, hpairs, hvalue⟩ := map_eq_ok.1 h
        cases hvalue
        exact .obj (Fields.nodup_keys_ofPairs pairs) fun field hfield =>
          ih.pairs hpairs field (Fields.mem_ofPairs hfield)
  · exact fits_of_readScalar depth h

theorem Fitting.items_succ {items : List Json} (ih : Fitting fuel)
    (h : readItems (fuel + 1) depth cs = .ok (items, rest)) : ∀ item ∈ items, Fits depth item := by
  unfold readItems at h
  obtain ⟨⟨item, cs'⟩, hitem, h⟩ := bind_eq_ok.1 h
  dsimp only at h
  split at h
  · cases h
    exact List.forall_mem_singleton.2 (ih.value hitem)
  · obtain ⟨⟨later, _⟩, hlater, h⟩ := bind_eq_ok.1 h
    cases h
    exact List.forall_mem_cons.2 ⟨ih.value hitem, ih.items hlater⟩
  · cases h

theorem Fitting.pairs_succ {pairs : List (Text × Json)} (ih : Fitting fuel)
    (h : readPairs (fuel + 1) depth cs = .ok (pairs, rest)) : ∀ pair ∈ pairs, Fits depth pair.2 := by
  unfold readPairs at h
  split at h
  · obtain ⟨⟨key, cs'⟩, _, h⟩ := bind_eq_ok.1 h
    dsimp only at h
    split at h
    · obtain ⟨⟨value, cs''⟩, hvalue, h⟩ := bind_eq_ok.1 h
      dsimp only at h
      split at h
      · cases h
        exact List.forall_mem_singleton.2 (ih.value hvalue)
      · obtain ⟨⟨later, _⟩, hlater, h⟩ := bind_eq_ok.1 h
        cases h
        exact List.forall_mem_cons.2 ⟨ih.value hvalue, ih.pairs hlater⟩
      · cases h
    · cases h
  · cases h

theorem fitting (fuel : Nat) : Fitting fuel := by
  induction fuel with
  | zero => exact ⟨nofun, nofun, nofun⟩
  | succ fuel ih => exact ⟨ih.value_succ, ih.items_succ, ih.pairs_succ⟩

end

theorem fits_of_read {cs : List Char} {depth : Nat} {value : Json} (h : read cs depth = .ok value) :
    Fits depth value := by
  unfold read at h
  split at h
  · cases h
  · obtain ⟨⟨found, rest⟩, hfound, h⟩ := bind_eq_ok.1 h
    dsimp only at h
    split at h
    · cases h
      exact (fitting _).value hfound
    · cases h

/-! ## Depths -/

def Deepens {α : Type} (reading deeper : Except Refusal α) : Prop :=
  reading = .error .tooDeep ∨ deeper = reading

section

variable {α β : Type} {reading deeper : Except Refusal α}

theorem Deepens.refl (reading : Except Refusal α) : Deepens reading reading := .inr rfl

theorem Deepens.bind {next further : α → Except Refusal β} (h : Deepens reading deeper)
    (hnext : ∀ value, Deepens (next value) (further value)) :
    Deepens (reading >>= next) (deeper >>= further) := by
  obtain rfl | rfl := h
  · exact .inl rfl
  · cases deeper with
    | error refusal => exact .inr rfl
    | ok value => exact hnext value

theorem Deepens.map (f : α → β) (h : Deepens reading deeper) :
    Deepens (reading.map f) (deeper.map f) := by
  obtain rfl | rfl := h
  · exact .inl rfl
  · exact .inr rfl

end

structure Deepening (fuel : Nat) : Prop where
  value {depth deeper : Nat} : depth ≤ deeper → ∀ cs,
    Deepens (readValue fuel depth cs) (readValue fuel deeper cs)
  items {depth deeper : Nat} : depth ≤ deeper → ∀ cs,
    Deepens (readItems fuel depth cs) (readItems fuel deeper cs)
  pairs {depth deeper : Nat} : depth ≤ deeper → ∀ cs,
    Deepens (readPairs fuel depth cs) (readPairs fuel deeper cs)

section

variable {fuel depth deeper : Nat}

-- A container takes a level off both depths, so the fuel below serves for all depths.
theorem Deepening.value_succ (ih : Deepening fuel) (hle : depth ≤ deeper) (cs : List Char) :
    Deepens (readValue (fuel + 1) depth cs) (readValue (fuel + 1) deeper cs) := by
  unfold readValue
  split
  · exact .refl _
  · cases depth with
    | zero => exact .inl rfl
    | succ depth =>
      obtain ⟨deeper, rfl⟩ := Nat.exists_eq_add_of_lt hle
      dsimp only
      split
      · exact .refl _
      · exact .map _ (ih.items (Nat.le_add_right _ _) _)
  · cases depth with
    | zero => exact .inl rfl
    | succ depth =>
      obtain ⟨deeper, rfl⟩ := Nat.exists_eq_add_of_lt hle
      dsimp only
      split
      · exact .refl _
      · exact .map _ (ih.pairs (Nat.le_add_right _ _) _)
  · exact .refl _

theorem Deepening.items_succ (ih : Deepening fuel) (hle : depth ≤ deeper) (cs : List Char) :
    Deepens (readItems (fuel + 1) depth cs) (readItems (fuel + 1) deeper cs) := by
  unfold readItems
  refine .bind (ih.value hle _) fun ⟨item, rest⟩ => ?_
  dsimp only
  split
  · exact .refl _
  · exact .bind (ih.items hle _) fun _ => .refl _
  · exact .refl _

theorem Deepening.pairs_succ (ih : Deepening fuel) (hle : depth ≤ deeper) (cs : List Char) :
    Deepens (readPairs (fuel + 1) depth cs) (readPairs (fuel + 1) deeper cs) := by
  unfold readPairs
  split
  · refine .bind (.refl _) fun ⟨key, rest⟩ => ?_
    dsimp only
    split
    · refine .bind (ih.value hle _) fun ⟨value, rest⟩ => ?_
      dsimp only
      split
      · exact .refl _
      · exact .bind (ih.pairs hle _) fun _ => .refl _
      · exact .refl _
    · exact .refl _
  · exact .refl _

theorem deepening (fuel : Nat) : Deepening fuel := by
  induction fuel with
  | zero => exact ⟨fun _ _ => .refl _, fun _ _ => .refl _, fun _ _ => .refl _⟩
  | succ fuel ih => exact ⟨ih.value_succ, ih.items_succ, ih.pairs_succ⟩

end

theorem deepens_read (cs : List Char) {depth deeper : Nat} (hle : depth ≤ deeper) :
    Deepens (read cs depth) (read cs deeper) := by
  unfold read
  split
  · exact .refl _
  · exact .bind ((deepening _).value hle _) fun _ => .refl _

theorem ne_tooDeep {cs : List Char} {depth : Nat} {value : Json} (h : read cs depth = .ok value) :
    read cs depth ≠ .error .tooDeep := by
  rw [h]
  exact nofun

theorem read_unique {cs : List Char} {depth other : Nat} (h : read cs depth ≠ .error .tooDeep)
    (hother : read cs other ≠ .error .tooDeep) : read cs depth = read cs other := by
  obtain hle | hle := Nat.le_total depth other
  · obtain hdeep | heq := deepens_read cs hle
    · exact absurd hdeep h
    · exact heq.symm
  · obtain hdeep | heq := deepens_read cs hle
    · exact absurd hdeep hother
    · exact heq

theorem read_tooDeep {cs : List Char} {depth deeper : Nat} (hle : depth ≤ deeper)
    (h : read cs deeper = .error .tooDeep) : read cs depth = .error .tooDeep := by
  obtain hdeep | heq := deepens_read cs hle
  · exact hdeep
  · exact heq.symm.trans h

/-! ## Plain strings -/

def IsPlain (c : Char) : Prop := c ≠ '\x22' ∧ c ≠ '\\' ∧ 0x20 ≤ c.toNat

theorem readPoints_plain {cs : List Char} (start rest : List Char)
    (h : ∀ c ∈ cs, IsPlain c) :
    readPoints start (cs ++ '\x22' :: rest) = .ok (Text.ofChars cs, rest) := by
  induction cs with
  | nil => rfl
  | cons c cs ih =>
    obtain ⟨hquote, hescape, hcontrol⟩ := h c List.mem_cons_self
    rw [List.cons_append, readPoints]
    · rw [if_neg (Nat.not_lt.2 hcontrol), ih fun d hd => h d (List.mem_cons_of_mem _ hd)]
      rfl
    all_goals simp [hquote, hescape]

theorem readString_plain {cs : List Char} (start rest : List Char)
    (h : ∀ c ∈ cs, IsPlain c) :
    readString start (cs ++ '\x22' :: rest) = .ok (Text.ofChars cs, rest) := by
  rw [readString, readPoints_plain start rest h]
  change Except.ok ((Text.ofChars cs).joinHalves, rest) = _
  rw [Text.joinHalves_ofChars]

theorem readValue_plain {cs : List Char} (fuel depth : Nat) (rest : List Char)
    (h : ∀ c ∈ cs, IsPlain c) :
    readValue (fuel + 1) depth ('\x22' :: (cs ++ '\x22' :: rest)) =
      .ok (.str (Text.ofChars cs), rest) := by
  rw [readValue, readString_plain _ rest h]
  rfl

theorem read_field {key cs : List Char} (depth : Nat) (hkey : ∀ c ∈ key, IsPlain c)
    (h : ∀ c ∈ cs, IsPlain c) :
    read ('\x7b' :: '\x22' :: (key ++ '\x22' :: ':' :: '\x22' :: (cs ++ ['\x22', '\x7d'])))
      (depth + 1) = .ok (.obj [(Text.ofChars key, .str (Text.ofChars cs))]) := by
  have hpairs (fuel : Nat) :
      readPairs (fuel + 2) depth
          ('\x22' :: (key ++ '\x22' :: ':' :: '\x22' :: (cs ++ ['\x22', '\x7d']))) =
        .ok ([(Text.ofChars key, .str (Text.ofChars cs))], []) := by
    rw [readPairs]
    exact bind_eq_ok.2 ⟨_, readString_plain _ _ hkey,
      bind_eq_ok.2 ⟨_, readValue_plain fuel depth _ h, rfl⟩⟩
  obtain ⟨fuel, hfuel⟩ : ∃ fuel, 2 * ('\x7b' :: '\x22' :: (key ++ '\x22' :: ':' :: '\x22' ::
      (cs ++ ['\x22', '\x7d']))).length + 2 = fuel + 3 := ⟨_, rfl⟩
  rw [read, if_neg (by simp), hfuel]
  have hvalue : readValue (fuel + 3) (depth + 1)
      ('\x7b' :: '\x22' :: (key ++ '\x22' :: ':' :: '\x22' :: (cs ++ ['\x22', '\x7d']))) =
        .ok (.obj [(Text.ofChars key, .str (Text.ofChars cs))], []) := by
    rw [readValue]
    change (readPairs (fuel + 2) depth _).map _ = _
    rw [hpairs]
    rfl
  exact bind_eq_ok.2 ⟨_, hvalue, rfl⟩

end Json

end NextRelease
