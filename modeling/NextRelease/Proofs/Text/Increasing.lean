import NextRelease.Proofs.Json.Quoting
import NextRelease.SortedSet

/-! Texts in increasing order. Code points are ordered by their numbers, and the sets that are made
of lists are strictly increasing, so that lists with the same members make the same set. -/

namespace NextRelease

namespace CodePoint

theorem toNat_injective {p q : CodePoint} (h : p.toNat = q.toNat) : p = q := by
  cases p with
  | scalar c =>
    have := toNat_of_char c
    cases q with
    | scalar d => exact congrArg scalar (Char.toNat_inj.1 h)
    | surrogate n =>
      simp only [toNat] at h
      omega
  | surrogate m =>
    cases q with
    | scalar d =>
      have := toNat_of_char d
      simp only [toNat] at h
      omega
    | surrogate n =>
      simp only [toNat] at h
      exact congrArg surrogate (Fin.ext (by omega))

instance : Std.TransOrd CodePoint where
  eq_swap := (Nat.compare_swap _ _).symm
  isLE_trans h h' := Nat.isLE_compare.2
    (Nat.le_trans (Nat.isLE_compare.1 h) (Nat.isLE_compare.1 h'))

instance : Std.LawfulEqOrd CodePoint where
  compare_self := Nat.compare_eq_eq.2 rfl
  eq_of_compare h := toNat_injective (Nat.compare_eq_eq.1 h)

end CodePoint

namespace SortedSet

variable {α : Type} [Ord α]

/-- Each member stands below all that follow it. -/
def Increasing (xs : List α) : Prop := xs.Pairwise fun x y => compare x y = .lt

variable [Std.TransOrd α] [Std.LawfulEqOrd α]

theorem increasing_insert {xs : List α} (h : Increasing xs) (x : α) : Increasing (insert x xs) := by
  induction xs with
  | nil => exact List.pairwise_singleton _ _
  | cons y ys ih =>
    obtain ⟨hy, hys⟩ := List.pairwise_cons.1 h
    unfold insert
    split
    · next hlt =>
      refine List.pairwise_cons.2 ⟨fun z hz => ?_, h⟩
      obtain rfl | hz := List.mem_cons.1 hz
      · exact hlt
      · exact Std.TransCmp.lt_trans hlt (hy z hz)
    · exact h
    · next hgt =>
      refine List.pairwise_cons.2 ⟨fun z hz => ?_, ih hys⟩
      obtain rfl | hz := mem_insert.1 hz
      · exact Std.OrientedCmp.gt_iff_lt.1 hgt
      · exact hy z hz

theorem increasing_ofList (xs : List α) : Increasing (ofList xs) := by
  induction xs with
  | nil => exact .nil
  | cons x xs ih => exact increasing_insert ih x

omit [Std.TransOrd α] in
theorem Increasing.nodup {xs : List α} (h : Increasing xs) : xs.Nodup := by
  refine List.Pairwise.imp (fun {x y} hlt heq => ?_) h
  subst heq
  exact nomatch hlt.symm.trans (Std.ReflOrd.compare_self (a := x))

theorem Increasing.eq {xs ys : List α} (hxs : Increasing xs) (hys : Increasing ys)
    (h : ∀ z, z ∈ xs ↔ z ∈ ys) : xs = ys := by
  refine ((List.perm_ext_iff_of_nodup hxs.nodup hys.nodup).2 h).eq_of_pairwise
    (fun x y _ _ hlt hgt => ?_) hxs hys
  exact nomatch hgt.symm.trans (Std.OrientedCmp.gt_iff_lt.2 hlt)

end SortedSet

end NextRelease
