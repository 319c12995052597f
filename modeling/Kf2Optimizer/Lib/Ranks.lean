/-
# One sort for several populations

A list sorted once by a key is also each of its subpopulations sorted (`map_filter_mergeSort`),
so a single pass over it with a counter for each subpopulation finds the subpopulation's ranks.
`getElem?_snoc_rank` and `sum_drop_snoc` are what one step of such a pass does: to the element of
a given rank, and to the sum of the elements from a given rank on.
-/
import Mathlib

namespace Ranks

variable {α β : Type}

/-- The element of rank `r`, counted from one, after one more element. -/
theorem getElem?_snoc_rank (l : List β) (b : β) {r : ℕ} (hr : 1 ≤ r) :
    (l ++ [b])[r - 1]? = if l.length + 1 = r then some b else l[r - 1]? := by
  by_cases h : l.length + 1 = r
  · rw [if_pos h, ← h, Nat.add_sub_cancel]
    exact List.getElem?_concat_length
  · rw [if_neg h, List.getElem?_append]
    split
    · rfl
    · rename_i hlen
      rw [List.getElem?_eq_none (by simp; omega), List.getElem?_eq_none (by omega)]

/-- The sum of the elements after the first `k`, after one more element. -/
theorem sum_drop_snoc [AddMonoid β] (l : List β) (b : β) (k : ℕ) :
    ((l ++ [b]).drop k).sum = if k < l.length + 1 then (l.drop k).sum + b else (l.drop k).sum := by
  by_cases h : k < l.length + 1
  · rw [if_pos h, List.drop_append_of_le_length (by omega), List.sum_append, List.sum_singleton]
  · rw [if_neg h, List.drop_eq_nil_of_le (by simp; omega), List.drop_eq_nil_of_le (by omega)]

variable [LinearOrder β]

/-- The sort by a key. -/
def sortBy (key : α → β) (l : List α) : List α := l.mergeSort fun a b => decide (key a ≤ key b)

theorem sortBy_perm (key : α → β) (l : List α) : (sortBy key l).Perm l := List.mergeSort_perm _ _

theorem sortBy_sorted (key : α → β) (l : List α) :
    ((sortBy key l).map key).Pairwise (· ≤ ·) := by
  have h : (sortBy key l).Pairwise fun a b => decide (key a ≤ key b) = true := by
    refine List.pairwise_mergeSort ?_ ?_ l
    · intro a b c hab hbc
      exact decide_eq_true ((of_decide_eq_true hab).trans (of_decide_eq_true hbc))
    · intro a b
      rcases le_total (key a) (key b) with h | h <;> simp [h]
  refine List.pairwise_map.mpr (h.imp ?_)
  intro a b hab
  exact of_decide_eq_true hab

/-- A list has one sorted arrangement. -/
theorem eq_of_sorted_perm {l l' : List β} (h : l.Pairwise (· ≤ ·)) (h' : l'.Pairwise (· ≤ ·))
    (hperm : l.Perm l') : l = l' :=
  List.Perm.eq_of_pairwise (fun _ _ _ _ hab hba => le_antisymm hab hba) h h' hperm

/-- **One sort serves every subpopulation**: in any arrangement that is sorted by the key. -/
theorem map_filter_sorted {key : α → β} {p : α → Bool} {l sorted : List α}
    (hperm : sorted.Perm l) (hsorted : (sorted.map key).Pairwise (· ≤ ·)) :
    (sorted.filter p).map key = sortBy id ((l.filter p).map key) := by
  have hleft : ((sorted.filter p).map key).Pairwise (· ≤ ·) :=
    hsorted.sublist (List.Sublist.map key List.filter_sublist)
  have hright : (sortBy id ((l.filter p).map key)).Pairwise (· ≤ ·) := by
    simpa using sortBy_sorted id ((l.filter p).map key)
  refine eq_of_sorted_perm hleft hright ?_
  exact ((hperm.filter p).map key).trans (sortBy_perm id _).symm

end Ranks
