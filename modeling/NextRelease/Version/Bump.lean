import NextRelease.Text.Quoted
import NextRelease.Version.Basic

/-!
The decision table. Two verdicts, whether the new revision can stand in for the old one and the old
one for the new, pick the part of the version that is raised; the result never falls below the
version that the new revision declares.
-/

namespace NextRelease

/-- The part of a version that a release raises. -/
inductive Bump where
  | patch
  | minor
  | major
  deriving DecidableEq

def Bump.name : Bump → String
  | patch => "patch"
  | minor => "minor"
  | major => "major"

namespace Version

def finalized (v : Version) : Version := { v with pre := [], build := [] }

def leadsTo (v : Version) : Bump → Bool
  | .patch => !v.pre.isEmpty
  | .minor => !v.pre.isEmpty && v.patch == 0
  | .major => !v.pre.isEmpty && v.minor == 0 && v.patch == 0

/-- The next release with the given part raised. -/
def increment (v : Version) (bump : Bump) : Version :=
  if v.leadsTo bump then v.finalized
  else
    match bump with
    | .patch => ⟨v.major, v.minor, v.patch + 1, [], []⟩
    | .minor => ⟨v.major, v.minor + 1, 0, [], []⟩
    | .major => ⟨v.major + 1, 0, 0, [], []⟩

/-- The part to raise. Below major one nothing is stable, and a break raises the minor part only. -/
def bumpFor (previous : Version) (forwards backwards : Bool) : Bump :=
  if forwards then if backwards then .patch else .minor
  else if previous.major = 0 then .minor else .major

/-- The version that follows `previous`, not below the one that is already declared. -/
def next (previous : Version) (declared : Option Version) (forwards backwards : Bool) : Version :=
  (previous.increment (previous.bumpFor forwards backwards)).latest declared

/-- Why no version was decided. -/
inductive Undecided where
  | missingPrevious
  | invalidPrevious (text : String)
  | invalidCurrent (text : String)
  | unprintable
  deriving DecidableEq

def Undecided.message : Undecided → String
  | missingPrevious => "invalid previous version: None"
  | invalidPrevious text => "invalid previous version: " ++ Text.quote text
  | invalidCurrent text => "invalid current version: " ++ Text.quote text
  | unprintable => Text.numeralTooLong

def decideVersions (previous declared : Option Version) (forwards backwards : Bool) :
    Except Undecided String :=
  match previous with
  | none => .error .missingPrevious
  | some v =>
    match (next v declared forwards backwards).print? with
    | some s => .ok s
    | none => .error .unprintable

/-- Decides on versions given as text, and answers in normal form. -/
def decideText (previous : String) (declared : Option String) (forwards backwards : Bool) :
    Except Undecided String :=
  match parse? previous, declared with
  | none, _ => .error (.invalidPrevious previous)
  | some v, none => decideVersions (some v) none forwards backwards
  | some v, some text =>
    match parse? text with
    | none => .error (.invalidCurrent text)
    | some w => decideVersions (some v) (some w) forwards backwards

end Version

end NextRelease
