import NextRelease.Number.Binary64
import NextRelease.Text.CodePoint

/-!
JSON values. The fields of an object keep the order in which their keys first appear, and each key
appears once.
-/

namespace NextRelease

inductive Json where
  | null
  | bool (value : Bool)
  | int (value : Int)
  | float (value : Binary64)
  | str (text : Text)
  | arr (items : List Json)
  | obj (fields : List (Text × Json))

/-- The fields of an object, in order. -/
abbrev Fields := List (Text × Json)

namespace Fields

def get? (key : Text) : Fields → Option Json
  | [] => none
  | (k, v) :: fields => if k = key then some v else get? key fields

def contains (fields : Fields) (key : Text) : Bool := (fields.get? key).isSome

/-- Replaces the value of a key in place, or adds the key at the end. -/
def set (key : Text) (value : Json) : Fields → Fields
  | [] => [(key, value)]
  | (k, v) :: fields => if k = key then (k, value) :: fields else (k, v) :: set key value fields

def ofPairs (pairs : List (Text × Json)) : Fields :=
  pairs.foldl (fun fields pair => set pair.1 pair.2 fields) []

def keys (fields : Fields) : List Text := fields.map (·.1)

end Fields

namespace Json

def isTruthy : Json → Bool
  | null => false
  | bool b => b
  | int n => n != 0
  | float x => !x.isZero
  | str t => !t.isEmpty
  | arr items => !items.isEmpty
  | obj fields => !fields.isEmpty

end Json

end NextRelease
