import NextRelease.Proofs.Text.Increasing
import NextRelease.Proofs.Witness.Naming
import NextRelease.Proofs.Witness.Reading

/-! What witness programs say. Whatever the entry points are called, a program is read as one import
for each of them and one object for each revision, in which all names are declared once and above
their use, so that it tells the two sets of entry points and nothing else. -/

namespace NextRelease.Witness

variable {previous current : List Text} {role target source : String}

/-! ## The syntax of a program -/

def imports (role : String) (entries : List Text) : List Line :=
  entries.mapIdx fun index entry => .imports (identifier role index) (moduleSpecifier role entry)

def fields (role : String) (entries : List Text) : List (Text × String) :=
  entries.mapIdx fun index entry => (entryKey entry, identifier role index)

def opening (previous current : List Text) : List Line :=
  [.directive, .blank] ++ imports "previous" previous ++ [.blank] ++
    imports "current" current ++ [.blank] ++
    [.object "previous" (fields "previous" previous),
      .object "current" (fields "current" current), .blank]

def lines (previous current : List Text) (target source : String) : List Line :=
  opening previous current ++ [.call target source, .blank]

inductive Scoped : List String → List Line → Prop
  | nil {above : List String} : Scoped above []
  | cons {above : List String} {line : Line} {rest : List Line} :
      (∀ name ∈ line.used, name ∈ above) → Scoped (above ++ line.declared) rest →
        Scoped above (line :: rest)

theorem Scoped.append {above : List String} {front rest : List Line} (hfront : Scoped above front)
    (hrest : Scoped (above ++ front.flatMap Line.declared) rest) : Scoped above (front ++ rest) := by
  induction hfront with
  | nil => simpa using hrest
  | cons hused _ ih => exact .cons hused (ih (by simpa using hrest))

/-- A set of entry points is that of a list of names, each once and in increasing order; the root is
the only one where there are no names. -/
structure IsSetOf (entries : List Text) (names : List String) : Prop where
  increasing : SortedSet.Increasing entries
  mem : ∀ entry, entry ∈ entries ↔
    entry ∈ names.map Text.ofString ∨ names = [] ∧ entry = Text.ofString ""

namespace IsSetOf

variable {entries : List Text} {names : List String}

theorem isPaired (h : IsSetOf entries names) : ∀ entry ∈ entries, entry.IsPaired := by
  intro entry hentry
  obtain hname | ⟨_, rfl⟩ := (h.mem entry).1 hentry
  · obtain ⟨name, _, rfl⟩ := List.mem_map.1 hname
    exact .of_string name
  · exact .of_string ""

end IsSetOf

end NextRelease.Witness
