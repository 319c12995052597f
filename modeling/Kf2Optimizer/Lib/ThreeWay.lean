/-
# Three-way merges of one value

A merge takes the step from `prev` to `next` over to `value`: the new value where the step changed
something, the old one where it did not.  Over the steps between consecutive readings (`carried`)
what remains is the value of the last change (`carried_of_last_change`), or the value that was there
before any (`carried_of_constant`).
-/
import Mathlib.Data.List.Basic

namespace ThreeWay

variable {β : Type} [DecidableEq β]

/-- The step from `prev` to `next`, taken over to `value`. -/
def merge (value prev next : β) : β := if next = prev then value else next

/-- The steps between consecutive readings, the first of which is `prev`. -/
def carried : β → β → List β → β
  | value, _, [] => value
  | value, prev, next :: rest => carried (merge value prev next) next rest

theorem merge_self (value prev : β) : merge value prev prev = value := if_pos rfl

theorem merge_of_ne {prev next : β} (h : prev ≠ next) (value : β) :
    merge value prev next = next := if_neg (Ne.symm h)

/-- Readings that never change leave the value alone. -/
theorem carried_of_constant {value prev : β} {readings : List β} (h : ∀ r ∈ readings, r = prev) :
    carried value prev readings = value := by
  induction readings generalizing value with
  | nil => rfl
  | cons next rest ih =>
    obtain rfl := h next List.mem_cons_self
    rw [carried, merge_self]
    exact ih fun r hr => h r (List.mem_cons_of_mem next hr)

/-- **The last change decides.** -/
theorem carried_of_last_change {value prev a b : β} {readings before rest : List β}
    (hsplit : prev :: readings = before ++ a :: b :: rest) (hchange : a ≠ b)
    (hlast : ∀ r ∈ rest, r = b) : carried value prev readings = b := by
  induction before generalizing value prev readings with
  | nil =>
    obtain ⟨rfl, rfl⟩ := List.cons_eq_cons.mp hsplit
    rw [carried, merge_of_ne hchange]
    exact carried_of_constant hlast
  | cons first before ih =>
    obtain ⟨rfl, hrest⟩ := List.cons_eq_cons.mp hsplit
    cases readings with
    | nil => simp at hrest
    | cons next readings =>
      rw [carried]
      exact ih hrest

end ThreeWay
