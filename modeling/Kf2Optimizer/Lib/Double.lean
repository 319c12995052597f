/-
# The operations a program asks of `double`

The optimizer's controllers compute with `double`.  What they decide depends on a handful of
operations and comparisons, and none of the control-flow results proved about them depends on
how those round.  So the models are written over any carrier `F` with these operations, the
comparisons being BOOLEAN so that a carrier may have values, such as NaN, that equal nothing
and order with nothing.

`ℚ` is the carrier of exact arithmetic: the one the models are evaluated on.
-/
import Mathlib

/-- The operations on `double` that the modelled code uses. -/
class DoubleOps (F : Type) where
  /-- A literal, or an integer converted by `static_cast<double>`. -/
  ofRat : ℚ → F
  add : F → F → F
  sub : F → F → F
  mul : F → F → F
  div : F → F → F
  abs : F → F
  eq : F → F → Bool
  lt : F → F → Bool
  le : F → F → Bool
  isFinite : F → Bool

/-- Exact arithmetic: every value is finite and the comparisons are the order's own. -/
instance : DoubleOps ℚ where
  ofRat q := q
  add := (· + ·)
  sub := (· - ·)
  mul := (· * ·)
  div := (· / ·)
  abs q := |q|
  eq a b := decide (a = b)
  lt a b := decide (a < b)
  le a b := decide (a ≤ b)
  isFinite _ := true

namespace DoubleOps

variable {F : Type} [DoubleOps F]

/-- `static_cast<double>` of an integer. -/
def ofInt (i : ℤ) : F := ofRat (i : ℚ)

/-- `==` on `std::optional<double>`. -/
def optEq : Option F → Option F → Bool
  | none, none => true
  | some a, some b => eq a b
  | _, _ => false

/-- `std::max(a, b)`. -/
def max (a b : F) : F := if lt a b then b else a

/-- `std::min(a, b)`. -/
def min (a b : F) : F := if lt b a then b else a

/-- `std::clamp(v, lo, hi)`. -/
def clamp (v lo hi : F) : F := if lt v lo then lo else if lt hi v then hi else v

/-! ## Exact arithmetic -/

@[simp] theorem lt_exact {a b : ℚ} : lt a b = true ↔ a < b := decide_eq_true_iff

@[simp] theorem le_exact {a b : ℚ} : le a b = true ↔ a ≤ b := decide_eq_true_iff

theorem max_exact (a b : ℚ) : DoubleOps.max a b = Max.max a b := by
  unfold DoubleOps.max
  by_cases h : a < b
  · rw [if_pos (lt_exact.mpr h), max_eq_right h.le]
  · rw [if_neg fun hlt => h (lt_exact.mp hlt), max_eq_left (not_lt.mp h)]

theorem clamp_exact {v lo hi : ℚ} (h : lo ≤ hi) : clamp v lo hi = Max.max lo (Min.min v hi) := by
  unfold clamp
  by_cases hlo : v < lo
  · rw [if_pos (lt_exact.mpr hlo), max_eq_left ((min_le_left v hi).trans hlo.le)]
  · rw [if_neg fun hlt => hlo (lt_exact.mp hlt)]
    by_cases hhi : hi < v
    · rw [if_pos (lt_exact.mpr hhi), min_eq_right hhi.le, max_eq_right h]
    · rw [if_neg fun hlt => hhi (lt_exact.mp hlt), min_eq_left (not_lt.mp hhi),
        max_eq_right (not_lt.mp hlo)]

theorem max_mono {a b a' b' : ℚ} (h : a ≤ a') (h' : b ≤ b') :
    DoubleOps.max a b ≤ DoubleOps.max a' b' := by
  rw [max_exact, max_exact]
  exact max_le_max h h'

theorem clamp_mono {v v' lo hi : ℚ} (hlo : lo ≤ hi) (h : v ≤ v') :
    clamp v lo hi ≤ clamp v' lo hi := by
  rw [clamp_exact hlo, clamp_exact hlo]
  exact max_le_max le_rfl (min_le_min h le_rfl)

end DoubleOps

/-! ## Reading -/

/-- The integer nearest to a number, the even one of two. -/
def roundHalfEven (q : ℚ) : ℤ :=
  if q - ⌊q⌋ < 1 / 2 then ⌊q⌋
  else if 1 / 2 < q - ⌊q⌋ then ⌊q⌋ + 1
  else if ⌊q⌋ % 2 = 0 then ⌊q⌋ else ⌊q⌋ + 1

/-- The value of the finite `double` nearest to a number that is not negative.  There is none
where that is out of range: the number is too large, or not zero and nearest to zero. -/
def nearestDouble (q : ℚ) : Option ℚ :=
  if q = 0 then some 0
  else
    let exponent := Max.max (Int.log 2 q - 52) (-1074)
    let mantissa := roundHalfEven (q / (2 : ℚ) ^ exponent)
    let value := mantissa * (2 : ℚ) ^ exponent
    if mantissa = 0 ∨ (2 : ℚ) ^ 1024 ≤ value then none else some value

/-! ## Integers -/

/-- `std::clamp` on integers. -/
def intClamp (v lo hi : ℤ) : ℤ := if v < lo then lo else if hi < v then hi else v

theorem intClamp_of_mem {v lo hi : ℤ} (hlo : lo ≤ v) (hhi : v ≤ hi) : intClamp v lo hi = v := by
  unfold intClamp; rw [if_neg (by omega), if_neg (by omega)]

theorem le_intClamp {v lo hi : ℤ} (h : lo ≤ hi) : lo ≤ intClamp v lo hi := by
  unfold intClamp; split
  · exact le_refl _
  · split <;> omega

theorem intClamp_le {v lo hi : ℤ} (h : lo ≤ hi) : intClamp v lo hi ≤ hi := by
  unfold intClamp; split
  · exact h
  · split <;> omega

/-- A clamp does not go below a bound that its argument and its upper end both keep. -/
theorem le_intClamp_of_le {b v lo hi : ℤ} (hhi : b ≤ hi) (hv : b ≤ v) : b ≤ intClamp v lo hi := by
  unfold intClamp; split
  · omega
  · split <;> omega

/-- `n` as a `std::uint64_t`: arithmetic on it wraps. -/
def u64 (n : ℕ) : ℕ := n % 2 ^ 64

theorem u64_of_lt {n : ℕ} (h : n < 2 ^ 64) : u64 n = n := Nat.mod_eq_of_lt h
