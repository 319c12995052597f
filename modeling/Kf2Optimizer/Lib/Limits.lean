/-
# Records under limits

A LIMIT caps one field of a record at a value; the fields are meet-semilattices, each in its own
order, so a cap may be a minimum in one field and a maximum in another.  Imposing limits one after
the other gives the greatest record below the start that keeps them all (`le_imposeAll`), and what
limits do follows from which records keep them: their order and their repetition do not matter, and
stronger limits give a lower record.
-/
import Mathlib.Order.Lattice
import Mathlib.Order.Basic
import Mathlib.Logic.Function.Basic
import Mathlib.Data.List.Perm.Basic

namespace Limits

variable {ι : Type} [DecidableEq ι] {V : ι → Type} [∀ i, SemilatticeInf (V i)]

/-- A cap on one field. -/
abbrev Limit (V : ι → Type) := Σ i, V i

/-- The record with a field capped. -/
def impose (r : ∀ i, V i) (l : Limit V) : ∀ i, V i := Function.update r l.1 (r l.1 ⊓ l.2)

def imposeAll (ls : List (Limit V)) (r : ∀ i, V i) : ∀ i, V i := ls.foldl impose r

/-- The record is within every one of the limits. -/
def Keeps (ls : List (Limit V)) (x : ∀ i, V i) : Prop := ∀ l ∈ ls, x l.1 ≤ l.2

omit [DecidableEq ι] in
theorem keeps_append {ls ls' : List (Limit V)} {x : ∀ i, V i} :
    Keeps (ls ++ ls') x ↔ Keeps ls x ∧ Keeps ls' x := List.forall_mem_append

/-! ## 1. The greatest record within the limits -/

theorem le_impose {x r : ∀ i, V i} {l : Limit V} : x ≤ impose r l ↔ x ≤ r ∧ x l.1 ≤ l.2 := by
  unfold impose
  rw [le_update_iff]
  constructor
  · rintro ⟨hl, hrest⟩
    refine ⟨fun i => ?_, hl.trans inf_le_right⟩
    by_cases h : i = l.1
    · subst h
      exact hl.trans inf_le_left
    · exact hrest i h
  · rintro ⟨hr, hl⟩
    exact ⟨le_inf (hr l.1) hl, fun i _ => hr i⟩

/-- **Imposing limits is a meet.** -/
theorem le_imposeAll {ls : List (Limit V)} {x r : ∀ i, V i} :
    x ≤ imposeAll ls r ↔ x ≤ r ∧ Keeps ls x := by
  unfold imposeAll Keeps
  induction ls generalizing r with
  | nil => simp
  | cons l ls ih => rw [List.foldl_cons, ih, le_impose, List.forall_mem_cons, and_assoc]

theorem imposeAll_append (ls ls' : List (Limit V)) (r : ∀ i, V i) :
    imposeAll (ls ++ ls') r = imposeAll ls' (imposeAll ls r) := List.foldl_append

theorem imposeAll_le (ls : List (Limit V)) (r : ∀ i, V i) : imposeAll ls r ≤ r :=
  (le_imposeAll.mp le_rfl).1

theorem keeps_imposeAll (ls : List (Limit V)) (r : ∀ i, V i) : Keeps ls (imposeAll ls r) :=
  (le_imposeAll.mp le_rfl).2

/-- Limits a record keeps already change nothing. -/
theorem imposeAll_of_keeps {ls : List (Limit V)} {r : ∀ i, V i} (h : Keeps ls r) :
    imposeAll ls r = r :=
  le_antisymm (imposeAll_le ls r) (le_imposeAll.mpr ⟨le_rfl, h⟩)

theorem imposeAll_idem (ls : List (Limit V)) (r : ∀ i, V i) :
    imposeAll ls (imposeAll ls r) = imposeAll ls r := imposeAll_of_keeps (keeps_imposeAll ls r)

/-- The order of the limits does not matter. -/
theorem imposeAll_perm {ls ls' : List (Limit V)} (h : ls.Perm ls') (r : ∀ i, V i) :
    imposeAll ls r = imposeAll ls' r := by
  have hkeeps : ∀ x, Keeps ls x ↔ Keeps ls' x := fun x =>
    forall_congr' fun l => by rw [h.mem_iff]
  exact eq_of_forall_le_iff fun x => by rw [le_imposeAll, le_imposeAll, hkeeps x]

/-! ## 2. Stronger limits -/

/-- What keeps `ls` keeps `ls'`. -/
def Tighter (ls ls' : List (Limit V)) : Prop := ∀ x : ∀ i, V i, Keeps ls x → Keeps ls' x

theorem Tighter.imposeAll {ls ls' : List (Limit V)} (h : Tighter ls ls') (r : ∀ i, V i) :
    imposeAll ls r ≤ imposeAll ls' r :=
  le_imposeAll.mpr ⟨imposeAll_le ls r, h _ (keeps_imposeAll ls r)⟩

omit [DecidableEq ι]

theorem Tighter.refl (ls : List (Limit V)) : Tighter ls ls := fun _ h => h

theorem Tighter.nil (ls : List (Limit V)) : Tighter ls [] := fun _ _ _ h => nomatch h

theorem Tighter.cons {ls ls' : List (Limit V)} {i : ι} {v v' : V i} (hv : v ≤ v')
    (h : Tighter ls ls') : Tighter (⟨i, v⟩ :: ls) (⟨i, v'⟩ :: ls') := by
  intro x hx
  obtain ⟨hl, hrest⟩ := List.forall_mem_cons.mp hx
  exact List.forall_mem_cons.mpr ⟨hl.trans hv, h x hrest⟩

theorem Tighter.append {ls ls' ms ms' : List (Limit V)} (h : Tighter ls ls')
    (hm : Tighter ms ms') : Tighter (ls ++ ms) (ls' ++ ms') := by
  intro x hx
  obtain ⟨hls, hms⟩ := keeps_append.mp hx
  exact keeps_append.mpr ⟨h x hls, hm x hms⟩

theorem Tighter.flatMap {α : Type} {f g : α → List (Limit V)} (h : ∀ a, Tighter (f a) (g a))
    (as : List α) : Tighter (as.flatMap f) (as.flatMap g) := by
  induction as with
  | nil => exact .nil []
  | cons a as ih => exact (h a).append ih

end Limits
