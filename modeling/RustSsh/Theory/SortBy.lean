/-
# Theory.SortBy -- lists sorted by a key

`mergeSort` by a key of the elements.  Where the keys are distinct the sorted list is
strictly increasing (`sortBy_strict`) and depends on the elements alone, not on the order
they came in (`sortBy_perm`).
-/
import Mathlib.Data.List.Basic
import Mathlib.Data.List.Nodup

namespace RustSsh.Theory

set_option autoImplicit false

variable {α K : Type} [LE K] [DecidableLE K] [Std.IsLinearOrder K]

theorem sortBy_sorted (key : α → K) (xs : List α) :
    (xs.mergeSort fun left right => key left ≤ key right).Pairwise
      fun left right => key left ≤ key right := by
  have sorted : (xs.mergeSort fun left right => key left ≤ key right).Pairwise
      fun left right => decide (key left ≤ key right) = true := by
    apply List.pairwise_mergeSort
    · intro a b c first second
      rw [decide_eq_true_eq] at first second ⊢
      exact Std.le_trans first second
    · intro a b
      rw [Bool.or_eq_true, decide_eq_true_eq, decide_eq_true_eq]
      exact Std.le_total
  exact sorted.imp fun le => of_decide_eq_true le

/-- With distinct keys no two elements are level. -/
theorem sortBy_strict [LT K] [Std.LawfulOrderLT K] (key : α → K) {xs : List α}
    (distinct : (xs.map key).Nodup) :
    (xs.mergeSort fun left right => key left ≤ key right).Pairwise
      fun left right => key left < key right := by
  have perm := List.mergeSort_perm xs fun left right => decide (key left ≤ key right)
  have apart := List.pairwise_map.mp (((perm.map key).nodup_iff).mpr distinct)
  exact ((sortBy_sorted key xs).and apart).imp fun both => Std.lt_of_le_of_ne both.1 both.2

/-- Two orders of the same elements sort to one list. -/
theorem sortBy_perm (key : α → K) {xs ys : List α} (perm : xs.Perm ys)
    (distinct : (xs.map key).Nodup) :
    (xs.mergeSort fun left right => key left ≤ key right) =
      ys.mergeSort fun left right => key left ≤ key right := by
  have left := List.mergeSort_perm xs fun left right => decide (key left ≤ key right)
  have right := List.mergeSort_perm ys fun left right => decide (key left ≤ key right)
  refine List.Perm.eq_of_pairwise ?_ (sortBy_sorted key xs) (sortBy_sorted key ys)
    (left.trans (perm.trans right.symm))
  intro a b inLeft inRight first second
  exact List.inj_on_of_nodup_map distinct (left.mem_iff.mp inLeft)
    (perm.mem_iff.mpr (right.mem_iff.mp inRight)) (Std.le_antisymm first second)

end RustSsh.Theory
