/-
# The largest elements of a set

A bounded buffer that keeps the latest of what it is given holds the largest elements of the set of
all it was given, in whatever order they came: what it has dropped is smaller than all it
holds, and stays out (`largest_union`).
-/
import Mathlib

namespace Ranks

variable {α : Type} [LinearOrder α]

/-- The `n` largest elements, in increasing order. -/
def largest (n : ℕ) (S : Finset α) : List α := (S.sort (· ≤ ·)).drop (S.card - n)

theorem largest_sorted (n : ℕ) (S : Finset α) : (largest n S).Pairwise (· < ·) :=
  (S.sortedLT_sort).pairwise.sublist (List.drop_sublist _ _)

theorem length_largest (n : ℕ) (S : Finset α) : (largest n S).length = min n S.card := by
  unfold largest
  rw [List.length_drop, Finset.length_sort]
  omega

theorem mem_of_mem_largest {n : ℕ} {S : Finset α} {x : α} (h : x ∈ largest n S) : x ∈ S :=
  (Finset.mem_sort _).mp (List.mem_of_mem_drop h)

/-- What is not among the largest is smaller than all of them, and there are `n` of those. -/
theorem below_largest {n : ℕ} {S : Finset α} {y : α} (hy : y ∈ S) (hout : y ∉ largest n S) :
    (∀ z ∈ largest n S, y < z) ∧ (largest n S).length = n := by
  have hsplit : S.sort (· ≤ ·) = (S.sort (· ≤ ·)).take (S.card - n) ++ largest n S :=
    (List.take_append_drop _ _).symm
  have hfront : y ∈ (S.sort (· ≤ ·)).take (S.card - n) := by
    have hmem := (Finset.mem_sort (· ≤ ·)).mpr hy
    rw [hsplit] at hmem
    exact (List.mem_append.mp hmem).resolve_right hout
  have hsorted : ((S.sort (· ≤ ·)).take (S.card - n) ++ largest n S).Pairwise (· < ·) :=
    hsplit ▸ (S.sortedLT_sort).pairwise
  refine ⟨fun z hz => (List.pairwise_append.mp hsorted).2.2 y hfront z hz, ?_⟩
  have hpos := List.length_pos_of_mem hfront
  rw [List.length_take, Finset.length_sort] at hpos
  rw [length_largest]
  omega

/-- The greater elements in a set. -/
def above (S : Finset α) (x : α) : Finset α := S.filter (x < ·)

theorem above_mono {S T : Finset α} (h : S ⊆ T) (x : α) : above S x ⊆ above T x :=
  Finset.filter_subset_filter _ h

/-- **The largest** are those with fewer than `n` greater ones. -/
theorem mem_largest {n : ℕ} {S : Finset α} {x : α} :
    x ∈ largest n S ↔ x ∈ S ∧ (above S x).card < n := by
  constructor
  · intro h
    refine ⟨mem_of_mem_largest h, ?_⟩
    -- the greater ones are all among the largest, and so is the element itself
    have hsub : insert x (above S x) ⊆ (largest n S).toFinset := by
      intro y hy
      rw [List.mem_toFinset]
      by_contra hout
      rcases Finset.mem_insert.mp hy with rfl | hy
      · exact hout h
      · obtain ⟨hyS, hlt⟩ := Finset.mem_filter.mp hy
        exact absurd ((below_largest hyS hout).1 x h) (not_lt.mpr hlt.le)
    have hcard := (Finset.card_le_card hsub).trans (List.toFinset_card_le _)
    rw [Finset.card_insert_of_notMem (by simp [above]), length_largest] at hcard
    omega
  · rintro ⟨hx, hfew⟩
    by_contra hout
    obtain ⟨hlt, hlength⟩ := below_largest hx hout
    have hsub : (largest n S).toFinset ⊆ above S x := by
      intro z hz
      rw [List.mem_toFinset] at hz
      exact Finset.mem_filter.mpr ⟨mem_of_mem_largest hz, hlt z hz⟩
    have hcard := Finset.card_le_card hsub
    rw [List.toFinset_card_of_nodup ((largest_sorted n S).imp fun h => h.ne), hlength] at hcard
    omega

/-- Lists in increasing order are equal when they have the same elements. -/
theorem eq_of_mem_iff {l l' : List α} (h : l.Pairwise (· < ·)) (h' : l'.Pairwise (· < ·))
    (hmem : ∀ x, x ∈ l ↔ x ∈ l') : l = l' :=
  List.Perm.eq_of_pairwise (fun _ _ _ _ hab hba => absurd hab hba.asymm) h h'
    ((List.perm_ext_iff_of_nodup (h.imp fun h => h.ne) (h'.imp fun h => h.ne)).mpr hmem)

/-- **Dropping early**: what is dropped before more comes would be dropped after it. -/
theorem largest_union (n : ℕ) (S T : Finset α) :
    largest n ((largest n S).toFinset ∪ T) = largest n (S ∪ T) := by
  have hsub : (largest n S).toFinset ∪ T ⊆ S ∪ T :=
    Finset.union_subset_union_left fun x hx => mem_of_mem_largest (List.mem_toFinset.mp hx)
  refine eq_of_mem_iff (largest_sorted ..) (largest_sorted ..) fun x => ?_
  rw [mem_largest, mem_largest]
  constructor
  · rintro ⟨hx, hfew⟩
    refine ⟨hsub hx, ?_⟩
    by_contra hmany
    -- some greater element was dropped, and the largest are all greater than that one
    obtain ⟨y, hy, hout⟩ : ∃ y ∈ above (S ∪ T) x, y ∉ above ((largest n S).toFinset ∪ T) x := by
      by_contra hall
      push Not at hall
      exact hmany ((Finset.card_le_card fun y hy => hall y hy).trans_lt hfew)
    obtain ⟨hyST, hlt⟩ := Finset.mem_filter.mp hy
    have hout' : y ∉ (largest n S).toFinset ∪ T := fun h => hout (Finset.mem_filter.mpr ⟨h, hlt⟩)
    rw [Finset.mem_union, List.mem_toFinset, not_or] at hout'
    have hyS := (Finset.mem_union.mp hyST).resolve_right hout'.2
    obtain ⟨hgreater, hlength⟩ := below_largest hyS hout'.1
    have hkept : (largest n S).toFinset ⊆ above ((largest n S).toFinset ∪ T) x := by
      intro z hz
      refine Finset.mem_filter.mpr ⟨Finset.mem_union_left _ hz, ?_⟩
      exact hlt.trans (hgreater z (List.mem_toFinset.mp hz))
    have hcard := Finset.card_le_card hkept
    rw [List.toFinset_card_of_nodup ((largest_sorted n S).imp fun h => h.ne), hlength] at hcard
    omega
  · rintro ⟨hx, hfew⟩
    refine ⟨?_, (Finset.card_le_card (above_mono hsub x)).trans_lt hfew⟩
    rcases Finset.mem_union.mp hx with hx | hx
    · refine Finset.mem_union_left _ (List.mem_toFinset.mpr (mem_largest.mpr ⟨hx, ?_⟩))
      exact (Finset.card_le_card (above_mono Finset.subset_union_left x)).trans_lt hfew
    · exact Finset.mem_union_right _ hx

/-- A list in order, cut from the front, has the largest of its elements. -/
theorem drop_eq_largest {l : List α} (h : l.Pairwise (· < ·)) (n : ℕ) :
    l.drop (l.length - n) = largest n l.toFinset := by
  have hsort : l.toFinset.sort (· ≤ ·) = l :=
    eq_of_mem_iff (l.toFinset.sortedLT_sort).pairwise h (by simp)
  rw [largest, hsort, List.toFinset_card_of_nodup (h.imp fun h => h.ne)]

end Ranks
