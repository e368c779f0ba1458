/-!
Finite sets as strictly increasing lists.
-/

namespace NextRelease.SortedSet

variable {α : Type} [Ord α]

def insert (x : α) : List α → List α
  | [] => [x]
  | y :: ys =>
    match compare x y with
    | .lt => x :: y :: ys
    | .eq => y :: ys
    | .gt => y :: insert x ys

def ofList (xs : List α) : List α := xs.foldr insert []

theorem mem_insert [Std.LawfulEqOrd α] {x y : α} {ys : List α} :
    y ∈ insert x ys ↔ y = x ∨ y ∈ ys := by
  induction ys with
  | nil => simp [insert]
  | cons z zs ih =>
    simp only [insert]
    split
    · simp
    · next h => simp [Std.LawfulEqOrd.eq_of_compare h]
    · simp only [List.mem_cons, ih]
      exact or_left_comm

@[simp] theorem mem_ofList [Std.LawfulEqOrd α] {y : α} {xs : List α} : y ∈ ofList xs ↔ y ∈ xs := by
  induction xs with
  | nil => simp [ofList]
  | cons x xs ih =>
    rw [List.mem_cons, ← ih]
    exact mem_insert

end NextRelease.SortedSet
