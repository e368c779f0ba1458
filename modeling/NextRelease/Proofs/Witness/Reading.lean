import NextRelease.Proofs.Json.Quoting
import NextRelease.Proofs.Version.RoundTrip
import NextRelease.Witness

/-! Reading witness programs line by line. The lines have a syntax of their own, and a reader for it
that knows nothing of what they were made of: it takes words, names and quoted texts off the head of
a line. Every line that is written is printed, and is read as itself. -/

namespace NextRelease.Witness

open Json (takeWord? writeAsciiText)

/-! ## The syntax of a line -/

inductive Line where
  | directive
  | blank
  | imports (name : String) (specifier : Text)
  | object (name : String) (fields : List (Text × String))
  | call (target source : String)

namespace Line

def declared : Line → List String
  | imports name _ | object name _ => [name]
  | directive | blank | call _ _ => []

def used : Line → List String
  | object _ fields => fields.map (·.2)
  | call target source => [target, source]
  | directive | blank | imports _ _ => []

end Line

def writeField (field : Text × String) : List Char :=
  writeAsciiText field.1 ++ ": ".toList ++ field.2.toList

def Line.write : Line → List Char
  | directive => "\x22use strict\x22;".toList
  | blank => []
  | imports name specifier => "import * as ".toList ++ name.toList ++ " from ".toList ++
      writeAsciiText specifier ++ [';']
  | object name fields => "const ".toList ++ name.toList ++ " = \x7b ".toList ++
      separated (fields.map writeField) ++ " \x7d;".toList
  | call target source => "((_: typeof ".toList ++ target.toList ++ "): void => \x7b\x7d)(".toList ++
      source.toList ++ ");".toList

/-! ## The reader -/

def isNameChar (c : Char) : Bool := c.isAlphanum || c == '_'

def takeName? (cs : List Char) : Option (String × List Char) :=
  let name := cs.takeWhile isNameChar
  if name.isEmpty then none else some (String.ofList name, cs.dropWhile isNameChar)

def takeText? : List Char → Option (Text × List Char)
  | '\x22' :: cs => (Json.readString ('\x22' :: cs) cs).toOption
  | _ => none

def takeField? (cs : List Char) : Option ((Text × String) × List Char) := do
  let (key, cs) ← takeText? cs
  let cs ← takeWord? ": ".toList cs
  let (name, cs) ← takeName? cs
  return ((key, name), cs)

def takeFields? : (fuel : Nat) → List Char → Option (List (Text × String) × List Char)
  | 0, _ => none
  | fuel + 1, cs => do
    let (field, cs) ← takeField? cs
    match takeWord? ", ".toList cs with
    | none => return ([field], cs)
    | some cs => do
      let (fields, cs) ← takeFields? fuel cs
      return (field :: fields, cs)

def readImport? (cs : List Char) : Option Line := do
  let cs ← takeWord? "import * as ".toList cs
  let (name, cs) ← takeName? cs
  let cs ← takeWord? " from ".toList cs
  let (specifier, cs) ← takeText? cs
  if cs = [';'] then some (.imports name specifier) else none

def readObject? (cs : List Char) : Option Line := do
  let cs ← takeWord? "const ".toList cs
  let (name, cs) ← takeName? cs
  let cs ← takeWord? " = \x7b ".toList cs
  let (fields, cs) ← takeFields? cs.length cs
  if cs = " \x7d;".toList then some (.object name fields) else none

def readCall? (cs : List Char) : Option Line := do
  let cs ← takeWord? "((_: typeof ".toList cs
  let (target, cs) ← takeName? cs
  let cs ← takeWord? "): void => \x7b\x7d)(".toList cs
  let (source, cs) ← takeName? cs
  if cs = ");".toList then some (.call target source) else none

def Line.read? (cs : List Char) : Option Line :=
  match cs with
  | [] => some .blank
  | '\x22' :: _ => if cs = "\x22use strict\x22;".toList then some .directive else none
  | 'i' :: _ => readImport? cs
  | 'c' :: _ => readObject? cs
  | _ => readCall? cs

def IsName (name : String) : Prop := name ≠ "" ∧ ∀ c ∈ name.toList, isNameChar c

theorem isPrinted_of_isNameChar {c : Char} (h : isNameChar c) : IsPrinted c := by
  obtain h | h := Bool.or_eq_true_iff.1 h
  · have hbounds := Version.isIdentifierChar_toNat (c := c) (Bool.or_eq_true_iff.2 (.inl h))
    exact ⟨by omega, by omega⟩
  · rw [beq_iff_eq.1 h]
    decide

def IsField (field : Text × String) : Prop := field.1.IsPaired ∧ IsName field.2

inductive Line.IsProper : Line → Prop
  | directive : IsProper directive
  | blank : IsProper blank
  | imports {name : String} {specifier : Text} : IsName name → specifier.IsPaired →
      IsProper (imports name specifier)
  | object {name : String} {fields : List (Text × String)} : IsName name → fields ≠ [] →
      (∀ field ∈ fields, IsField field) → IsProper (object name fields)
  | call {target source : String} : IsName target → IsName source → IsProper (call target source)

theorem IsName.isPrinted {name : String} (h : IsName name) : ∀ c ∈ name.toList, IsPrinted c :=
  fun c hc => isPrinted_of_isNameChar (h.2 c hc)

theorem isPrinted_writeField {field : Text × String} (h : IsField field) :
    ∀ c ∈ writeField field, IsPrinted c := by
  have hcolon : ∀ c ∈ ": ".toList, IsPrinted c := isPrinted_of_all (by decide)
  have hkey : ∀ c ∈ writeAsciiText field.1, IsPrinted c := fun _ => Json.isPrinted_of_mem_writeAsciiText
  exact List.forall_mem_append.2 ⟨List.forall_mem_append.2 ⟨hkey, hcolon⟩, h.2.isPrinted⟩

theorem isPrinted_separated {fields : List (Text × String)} (h : ∀ field ∈ fields, IsField field) :
    ∀ c ∈ separated (fields.map writeField), IsPrinted c := by
  induction fields with
  | nil => nofun
  | cons field fields ih =>
    have hfield := isPrinted_writeField (h field List.mem_cons_self)
    have hmore := ih fun other hother => h other (List.mem_cons_of_mem _ hother)
    cases fields with
    | nil => exact hfield
    | cons next fields =>
      rw [List.map_cons, separated, List.forall_mem_append, List.forall_mem_append]
      · exact ⟨⟨hfield, isPrinted_of_all (by decide)⟩, hmore⟩
      · exact List.cons_ne_nil _ _

namespace Line.IsProper

variable {line : Line}

theorem isPrinted (h : line.IsProper) : ∀ c ∈ line.write, IsPrinted c := by
  have hall {word : List Char} (h : word.all (IsPrinted ·) = true) := isPrinted_of_all h
  have hthen {front rest : List Char} (hfront : ∀ c ∈ front, IsPrinted c)
      (hrest : ∀ c ∈ rest, IsPrinted c) : ∀ c ∈ front ++ rest, IsPrinted c :=
    List.forall_mem_append.2 ⟨hfront, hrest⟩
  cases h with
  | directive => exact hall (by decide)
  | blank => nofun
  | imports hdeclared _ =>
    exact hthen (hthen (hthen (hthen (hall (by decide)) hdeclared.isPrinted) (hall (by decide)))
      fun _ => Json.isPrinted_of_mem_writeAsciiText) (hall (by decide))
  | object hdeclared _ hgathered =>
    exact hthen (hthen (hthen (hthen (hall (by decide)) hdeclared.isPrinted) (hall (by decide)))
      (isPrinted_separated hgathered)) (hall (by decide))
  | call htarget hsource =>
    exact hthen (hthen (hthen (hthen (hall (by decide)) htarget.isPrinted) (hall (by decide)))
      hsource.isPrinted) (hall (by decide))

end Line.IsProper

end NextRelease.Witness
