/-!
Code points and texts made of them. A JSON string may spell half of a surrogate pair on its own, so
a text holds characters and lone halves; the texts without lone halves are the strings.
-/

namespace NextRelease

/-- A character, or half of a surrogate pair that stands alone. -/
inductive CodePoint where
  | scalar (c : Char)
  | surrogate (offset : Fin 0x800)
  deriving DecidableEq

namespace CodePoint

def toNat : CodePoint → Nat
  | scalar c => c.toNat
  | surrogate n => 0xD800 + n.val

instance : Ord CodePoint := ⟨fun a b => compare a.toNat b.toNat⟩

def ofNat (n : Nat) : CodePoint :=
  if h : 0xD800 ≤ n ∧ n < 0xE000 then surrogate ⟨n - 0xD800, by omega⟩ else scalar (Char.ofNat n)

end CodePoint

abbrev Text := List CodePoint

namespace Text

def ofChars (cs : List Char) : Text := cs.map .scalar

def ofString (s : String) : Text := ofChars s.toList

def toChars? : Text → Option (List Char)
  | [] => some []
  | .scalar c :: t => (toChars? t).map (c :: ·)
  | .surrogate _ :: _ => none

def toString? (t : Text) : Option String := (toChars? t).map String.ofList

def joinHalves : Text → Text
  | .surrogate high :: .surrogate low :: t =>
    if high.val < 0x400 ∧ 0x400 ≤ low.val then
      .scalar (Char.ofNat (0x10000 + high.val * 0x400 + (low.val - 0x400))) :: joinHalves t
    else
      .surrogate high :: joinHalves (.surrogate low :: t)
  | p :: t => p :: joinHalves t
  | [] => []

@[simp] theorem toChars?_ofChars (cs : List Char) : toChars? (ofChars cs) = some cs := by
  induction cs with
  | nil => rfl
  | cons c cs ih => simpa [ofChars, toChars?] using ih

theorem eq_ofChars_of_toChars? {t : Text} {cs : List Char} (h : toChars? t = some cs) :
    t = ofChars cs := by
  induction t generalizing cs with
  | nil => simp_all [toChars?, ofChars]
  | cons p t ih =>
    cases p with
    | scalar c =>
      obtain ⟨ds, hds, rfl⟩ := Option.map_eq_some_iff.1 h
      simp [ih hds, ofChars]
    | surrogate n => simp [toChars?] at h

@[simp] theorem toString?_ofString (s : String) : toString? (ofString s) = some s := by
  simp [toString?, ofString]

end Text

end NextRelease
