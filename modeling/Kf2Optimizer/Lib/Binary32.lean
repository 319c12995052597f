/-
# Distances between `float` values

A `float` is `Float32`, whose operations Lean defines on unpacked numbers.  Programs compare two
of them by `Abs(a - b) < tolerance`, and this module says when that test must FAIL.

* `round_finite`: rounding keeps the exponent, up to the one that a carry adds.
* `not_lt_abs_sub`: a difference whose exponent is above the tolerance's is not below it.
* `hundredths_apart`: values next to two different hundredths differ by a thousandth or more.
* `OnGrid.eq_of_lt`: so quotients by a divisor of 100 that pass the test are equal.
-/
import Mathlib

namespace Binary32

open Float.Model Float.Model.UnpackedFloat

/-! ## 1. Rounding keeps the exponent -/

theorem shiftRight_mantissa (em : ExtendedMantissa) (k : ℕ) :
    (em >>> k).mantissa = em.mantissa / 2 ^ k := by
  show (Nat.repeat ExtendedMantissa.shiftRightOne k em).mantissa = _
  induction k with
  | zero => simp [Nat.repeat]
  | succ k ih =>
    rw [Nat.repeat, ExtendedMantissa.shiftRightOne, ih, Nat.div_div_eq_div_mul, pow_succ]

theorem roundedMantissa_bounds (em : ExtendedMantissa) :
    em.mantissa ≤ em.roundedMantissa ∧ em.roundedMantissa ≤ em.mantissa + 1 := by
  obtain ⟨m, r, s⟩ := em
  cases r <;> cases s <;>
    simp only [ExtendedMantissa.roundedMantissa, ExtendedMantissa.accuracy,
      Accuracy.roundToNearestEven] <;> omega

theorem ofMantissa_mantissa (m : ℕ) (a : Accuracy) :
    (ExtendedMantissa.ofMantissaAndAccuracy m a).mantissa = m := by
  cases a with
  | exact => rfl
  | inexact o => cases o <;> rfl

/-- The number of binary digits that `m * 2 ^ e` has before its point. -/
theorem targetExponent_of_le {m : ℕ} {e : ℤ} (h : -125 ≤ totalExponent m e) :
    Format.binary32.targetExponent (totalExponent m e) = totalExponent m e - 24 := by
  simp only [Format.targetExponent, Format.minExponent, Format.mantissaBits]
  omega

theorem log2_eq_of_bounds {n k : ℕ} (hlo : 2 ^ k ≤ n) (hhi : n < 2 ^ (k + 1)) : n.log2 = k := by
  have hn : n ≠ 0 := by have := Nat.two_pow_pos k; omega
  exact (Nat.log2_eq_iff hn).mpr ⟨hlo, hhi⟩

theorem log2_shiftLeft {m : ℕ} (hm : m ≠ 0) (k : ℕ) : (m <<< k).log2 = m.log2 + k := by
  rw [Nat.shiftLeft_eq, Nat.log2_eq_iff (Nat.mul_ne_zero hm (Nat.two_pow_pos k).ne')]
  constructor
  · rw [pow_add]
    exact Nat.mul_le_mul_right _ (Nat.log2_self_le hm)
  · rw [show m.log2 + k + 1 = m.log2 + 1 + k by omega, pow_add]
    exact Nat.mul_lt_mul_of_pos_right Nat.lt_log2_self (Nat.two_pow_pos k)

/-- Shifting to the target exponent `t - 24`, once the mantissa has at least 24 digits. -/
theorem shiftToTargetExponent_eq {m : ℕ} {e : ℤ} (a : Accuracy)
    (hlow : -125 ≤ totalExponent m e) (hlong : 23 ≤ m.log2) :
    (shiftToTargetExponent Format.binary32 m e a).1.mantissa = m / 2 ^ (m.log2 - 23) ∧
      (shiftToTargetExponent Format.binary32 m e a).2 = totalExponent m e - 24 := by
  have hshift : (totalExponent m e - 24 - e).toNat = m.log2 - 23 := by
    simp only [totalExponent]; omega
  simp only [shiftToTargetExponent, targetExponent_of_le hlow, shiftToExponent, hshift,
    shiftRight_mantissa, ofMantissa_mantissa, true_and]
  simp only [totalExponent]; omega

/-- **Rounding keeps the exponent.**  A carry out of the 24 digits adds one to it. -/
theorem roundWithAccuracy_finite (sign : Sign) {m : ℕ} {e : ℤ} (hm : m ≠ 0)
    (hlow : -125 ≤ totalExponent m e) (hlong : 23 ≤ m.log2) :
    ∃ (m' : ℕ) (e' : ℤ) (h : 0 < m'),
      roundWithAccuracy Format.binary32 sign m e .exact = .finite sign m' e' h ∧
        m'.log2 = 23 ∧ totalExponent m e - 24 ≤ e' ∧ e' ≤ totalExponent m e - 23 := by
  obtain ⟨hman, hexp⟩ := shiftToTargetExponent_eq .exact hlow hlong
  unfold roundWithAccuracy
  generalize shiftToTargetExponent Format.binary32 m e .exact = first at *
  obtain ⟨em, e₁⟩ := first
  simp only at hman hexp ⊢
  subst hexp
  obtain ⟨hr, hr'⟩ := roundedMantissa_bounds em
  rw [hman] at hr hr'
  have hlo : 2 ^ 23 ≤ m / 2 ^ (m.log2 - 23) := by
    rw [Nat.le_div_iff_mul_le (Nat.two_pow_pos _), ← pow_add,
      show 23 + (m.log2 - 23) = m.log2 by omega]
    exact Nat.log2_self_le hm
  have hhi : m / 2 ^ (m.log2 - 23) < 2 ^ 24 := by
    rw [Nat.div_lt_iff_lt_mul (Nat.two_pow_pos _), ← pow_add,
      show 24 + (m.log2 - 23) = m.log2 + 1 by omega]
    exact Nat.lt_log2_self
  generalize m / 2 ^ (m.log2 - 23) = q at *
  generalize em.roundedMantissa = r at *
  -- The rounded mantissa has 24 digits still, or it is the next power of two.
  have hcarry : r.log2 = 23 ∨ (r = 2 ^ 24 ∧ r.log2 = 24) := by
    by_cases h : r < 2 ^ 24
    · exact .inl (log2_eq_of_bounds (by omega) h)
    · have hr : r = 2 ^ 24 := by omega
      exact .inr ⟨hr, hr ▸ Nat.log2_two_pow⟩
  have hlong' : 23 ≤ r.log2 := by omega
  have hlow' : -125 ≤ totalExponent r (totalExponent m e - 24) := by
    simp only [totalExponent] at hlow ⊢; omega
  obtain ⟨hman', hexp'⟩ := shiftToTargetExponent_eq .exact hlow' hlong'
  have hfinal : (r / 2 ^ (r.log2 - 23)).log2 = 23 := by
    obtain h | ⟨rfl, h⟩ := hcarry
    · rw [h]; simpa using h
    · rw [h]; exact Nat.log2_two_pow (n := 23)
  have hne : r / 2 ^ (r.log2 - 23) ≠ 0 := by
    intro h; rw [h] at hfinal; simp at hfinal
  refine ⟨r / 2 ^ (r.log2 - 23), totalExponent r (totalExponent m e - 24) - 24,
    Nat.pos_of_ne_zero hne, ?_, hfinal, ?_⟩
  · rw [dif_neg (by rw [hman']; exact hne)]
    simp only [hman', hexp']
  · simp only [totalExponent]; omega

/-- `round`, which first gives a short mantissa its 24 digits. -/
theorem round_finite (sign : Sign) {m : ℕ} {e : ℤ} (hm : m ≠ 0)
    (hlow : -125 ≤ totalExponent m e) :
    ∃ (m' : ℕ) (e' : ℤ) (h : 0 < m'),
      UnpackedFloat.round Format.binary32 sign m e = .finite sign m' e' h ∧
        m'.log2 = 23 ∧ totalExponent m e - 24 ≤ e' ∧ e' ≤ totalExponent m e - 23 := by
  have htotal : ∀ k : ℕ, totalExponent (m <<< k) (e - k) = totalExponent m e := by
    intro k; simp only [totalExponent, log2_shiftLeft hm]; omega
  unfold UnpackedFloat.round
  rw [targetExponent_of_le hlow]
  simp only [decreaseExponent]
  have hne : m <<< (e - (totalExponent m e - 24)).toNat ≠ 0 := by
    rw [Nat.shiftLeft_eq]
    exact Nat.mul_ne_zero hm (Nat.two_pow_pos _).ne'
  have hlong : 23 ≤ (m <<< (e - (totalExponent m e - 24)).toNat).log2 := by
    rw [log2_shiftLeft hm]; simp only [totalExponent]; omega
  obtain ⟨m', e', h, heq, hlog', hbounds⟩ :=
    roundWithAccuracy_finite sign hne ((htotal _).symm ▸ hlow) hlong
  rw [htotal] at hbounds
  exact ⟨m', e', h, heq, hlog', hbounds⟩

/-! ## 2. Packing -/

theorem unpackSign_packComponents {spec : Format} {sign : Sign}
    {exponent : BitVec spec.exponentBits} {mantissa : BitVec spec.mantissaBitsWithoutImplicit} :
    unpackSign (packComponents spec sign exponent mantissa) = sign.toBitVec := by
  have hbit : ∀ b c : BitVec 1, b.getLsbD 0 = c.getLsbD 0 → b = c := by decide
  exact hbit _ _ (by simp [unpackSign, packComponents, BitVec.getLsbD_append,
    BitVec.getElem_append])

/-- A number with 24 digits and an exponent in range survives packing. -/
theorem unpack_pack_finite (sign : Sign) {m : ℕ} {e : ℤ} (h : 0 < m) (hlog : m.log2 = 23)
    (hlo : -149 ≤ e) (hhi : e ≤ 104) :
    UnpackedFloat.unpack Format.binary32
      (UnpackedFloat.pack Format.binary32 (.finite sign m e h)) = .finite sign m e h := by
  have hbits : 2 ^ 23 ≤ m ∧ m < 2 ^ 24 := by
    have := Nat.log2_self_le (n := m) (by omega)
    have := Nat.lt_log2_self (n := m)
    rw [hlog] at *
    omega
  have hmantissa : (1#1 ++ BitVec.ofNat 23 m).toNat = m := by
    rw [BitVec.toNat_append, ← Nat.shiftLeft_add_eq_or_of_lt (BitVec.isLt _), Nat.shiftLeft_eq]
    simp only [BitVec.toNat_ofNat]
    omega
  have hsign : Sign.ofBitVec sign.toBitVec = sign := by cases sign <;> rfl
  simp only [UnpackedFloat.pack, Format.exponentBias, Format.mantissaBits, hlog]
  norm_num
  rw [if_neg (by omega)]
  simp only [UnpackedFloat.unpack, unpackExponent_packComponents, unpackMantissa_packComponents,
    unpackSign_packComponents, hsign]
  obtain ⟨k, hk⟩ : ∃ k : ℕ, (e + 127 + 23).toNat = k := ⟨_, rfl⟩
  rw [hk]
  have hexponent : (BitVec.ofNat 8 k).toNat = k := by
    rw [BitVec.toNat_ofNat]; omega
  rw [if_neg, if_neg]
  · congr 1
    rw [hexponent]
    simp only [Format.exponentBias]
    omega
  -- The exponents of zero and of the infinite values are not in range.
  all_goals
    intro hz
    have hk' := congrArg BitVec.toNat hz
    rw [hexponent] at hk'
    simp at hk'
    omega

/-! ## 3. Differences -/

/-- The number that a positive `float` is, in units of `2 ^ -27`, where it is a whole number of
them and has 24 digits at most. -/
def units (a : Float32) : Option ℕ :=
  match a.toModel.unpack with
  | .finite .positive m e _ =>
    if -27 ≤ e ∧ e ≤ 0 ∧ m < 2 ^ 24 then some (m * 2 ^ (e + 27).toNat) else none
  | _ => none

theorem units_eq_some {a : Float32} {n : ℕ} (h : units a = some n) :
    ∃ (m : ℕ) (e : ℤ) (hm : 0 < m), a.toModel.unpack = .finite .positive m e hm ∧
      -27 ≤ e ∧ e ≤ 0 ∧ m < 2 ^ 24 ∧ n = m * 2 ^ (e + 27).toNat := by
  unfold units at h
  split at h
  · rename_i m e hm heq
    split at h
    · rename_i hb
      exact ⟨m, e, hm, heq, hb.1, hb.2.1, hb.2.2, (Option.some_inj.mp h).symm⟩
    · cases h
  · cases h

/-- `c` is a positive number with an exponent of `e` at most. -/
def exponentAtMost (c : Float32) (e : ℤ) : Bool :=
  match c.toModel.unpack with
  | .finite .positive _ e' _ => decide (e' ≤ e)
  | _ => false

theorem normalize_of_ne_zero (spec : Format) {m : ℤ} (hm : m ≠ 0) (e : ℤ) (zero : Sign) :
    ∃ sign, UnpackedFloat.normalize spec m e zero = UnpackedFloat.round spec sign m.natAbs e := by
  unfold UnpackedFloat.normalize
  obtain h | h := lt_or_gt_of_ne hm
  · refine ⟨.negative, ?_⟩
    rw [show compare m 0 = .lt from compare_lt_iff_lt.mpr h]
    simp only
    congr 1
    omega
  · refine ⟨.positive, ?_⟩
    rw [show compare m 0 = .gt from compare_gt_iff_gt.mpr h]
    simp only
    congr 1
    omega

/-- **The exponent of a distance.**  Two numbers of whole units that differ have a distance whose
exponent is, give or take the carry, the number of digits of their difference. -/
theorem abs_sub_unpack {a b : Float32} {n k : ℕ} (ha : units a = some n) (hb : units b = some k)
    (hne : n ≠ k) :
    ∃ (m : ℕ) (e : ℤ) (h : 0 < m), (a - b).abs.toModel.unpack = .finite .positive m e h ∧
      ((n : ℤ) - k).natAbs.log2 - 50 ≤ e := by
  obtain ⟨m₁, e₁, h₁, hua, hlo₁, hhi₁, hm₁, rfl⟩ := units_eq_some ha
  obtain ⟨m₂, e₂, h₂, hub, hlo₂, hhi₂, hm₂, rfl⟩ := units_eq_some hb
  have hsub : (a - b).toModel = Float32.Model.pack (UnpackedFloat.sub Format.binary32
      a.toModel.unpack b.toModel.unpack) := rfl
  rw [hua, hub] at hsub
  simp only [UnpackedFloat.sub, decreaseExponent, Sign.apply] at hsub
  generalize hs : min e₁ e₂ = s at hsub
  generalize hM : ((m₁ <<< (e₁ - s).toNat : ℕ) : ℤ) - ((m₂ <<< (e₂ - s).toNat : ℕ) : ℤ) = M at hsub
  have hval : M * 2 ^ (s + 27).toNat =
      ((m₁ * 2 ^ (e₁ + 27).toNat : ℕ) : ℤ) - ((m₂ * 2 ^ (e₂ + 27).toNat : ℕ) : ℤ) := by
    rw [← hM, show (e₁ + 27).toNat = (e₁ - s).toNat + (s + 27).toNat by omega,
      show (e₂ + 27).toNat = (e₂ - s).toNat + (s + 27).toNat by omega]
    push_cast [Nat.shiftLeft_eq, pow_add]
    ring
  rw [← hval]
  have hM0 : M ≠ 0 := by
    rintro rfl
    rw [zero_mul] at hval
    exact hne (by exact_mod_cast (sub_eq_zero.mp hval.symm))
  have hbound : M.natAbs < 2 ^ 51 := by
    have hshift : ∀ (m : ℕ) (e : ℤ), m < 2 ^ 24 → -27 ≤ s → e ≤ 0 →
        m <<< (e - s).toNat < 2 ^ 51 := by
      intro m e hm hs he
      rw [Nat.shiftLeft_eq, show (51 : ℕ) = 24 + 27 from rfl, pow_add]
      calc m * 2 ^ (e - s).toNat ≤ m * 2 ^ 27 :=
            Nat.mul_le_mul_left _ (Nat.pow_le_pow_right (by omega) (by omega))
        _ < 2 ^ 24 * 2 ^ 27 := by omega
    have h₁ := hshift m₁ e₁ hm₁ (by omega) hhi₁
    have h₂ := hshift m₂ e₂ hm₂ (by omega) hhi₂
    rw [← hM]
    generalize m₁ <<< (e₁ - s).toNat = x at h₁ ⊢
    generalize m₂ <<< (e₂ - s).toNat = y at h₂ ⊢
    omega
  have hlogM : M.natAbs.log2 < 51 := (Nat.log2_lt (by omega)).mpr hbound
  have hlogD : (M * 2 ^ (s + 27).toNat).natAbs.log2 = M.natAbs.log2 + (s + 27).toNat := by
    rw [Int.natAbs_mul, Int.natAbs_pow, show (2 : ℤ).natAbs = 2 from rfl, ← Nat.shiftLeft_eq]
    exact log2_shiftLeft (by omega) _
  obtain ⟨sign, hnorm⟩ := normalize_of_ne_zero Format.binary32 hM0 s .positive
  obtain ⟨m', e', h', hround, hlog', hlo', hhi'⟩ :=
    round_finite sign (m := M.natAbs) (e := s) (by omega) (by simp only [totalExponent]; omega)
  simp only [totalExponent] at hlo' hhi'
  rw [hnorm, hround] at hsub
  refine ⟨m', e', h', ?_, by omega⟩
  show (Float32.Model.pack (a - b).toModel.unpack.abs).unpack = _
  have hunpack : (a - b).toModel.unpack = .finite sign m' e' h' := by
    rw [hsub]
    exact unpack_pack_finite sign h' hlog' (by omega) (by omega)
  rw [hunpack]
  exact unpack_pack_finite .positive h' hlog' (by omega) (by omega)

/-- A distance is not below a `float` whose exponent is smaller. -/
theorem not_abs_sub_lt {a b c : Float32} {n k : ℕ} {e : ℤ} (ha : units a = some n)
    (hb : units b = some k) (hne : n ≠ k) (hc : exponentAtMost c e = true)
    (he : e < ((n : ℤ) - k).natAbs.log2 - 50) : ¬(a - b).abs < c := by
  obtain ⟨m', e', h', hunpack, hle⟩ := abs_sub_unpack ha hb hne
  unfold exponentAtMost at hc
  split at hc
  · rename_i m e₀ hm hunpackc
    have hgt : compare e' e₀ = .gt := compare_gt_iff_gt.mpr (by have := of_decide_eq_true hc; omega)
    have hlt : (a - b).abs.toModel.lt c.toModel = false := by
      unfold Float32.Model.lt
      rw [hunpack, hunpackc]
      simp [UnpackedFloat.lt, UnpackedFloat.compare, hgt]
    intro h
    have hmodel : (a - b).abs.toModel < c.toModel := of_decide_eq_true h
    change (a - b).abs.toModel.lt c.toModel = true at hmodel
    rw [hlt] at hmodel
    cases hmodel
  · cases hc

/-! ## 4. Hundredths -/

/-- `a` is a whole number of units, and within `1 / 12800` of `k / 100`. -/
def nearHundredth (a : Float32) (k : ℕ) : Bool :=
  match units a with
  | some n => decide (((100 * n : ℕ) - (k * 2 ^ 27 : ℕ) : ℤ).natAbs ≤ 2 ^ 20)
  | none => false

/-- **Hundredths are apart.**  Two values next to different hundredths differ by a thousandth or
more, as the code's own subtraction and comparison see it. -/
theorem hundredths_apart {a b : Float32} {k j : ℕ} (ha : nearHundredth a k = true)
    (hb : nearHundredth b j = true) (h : k ≠ j) : ¬(a - b).abs < 0.001 := by
  unfold nearHundredth at ha hb
  split at ha
  · rename_i n hn
    split at hb
    · rename_i n' hn'
      have ha := of_decide_eq_true ha
      have hb := of_decide_eq_true hb
      have hfar : 2 ^ 19 ≤ ((n : ℤ) - n').natAbs := by
        push_cast at ha hb ⊢; omega
      have hlog : 19 ≤ ((n : ℤ) - n').natAbs.log2 := (Nat.le_log2 (by omega)).mpr hfar
      exact not_abs_sub_lt (e := -33) hn hn' (by omega) (by decide +kernel) (by omega)
    · cases hb
  · cases ha

/-- `a` is the quotient `k / d` as a `float`, and next to that many hundredths. -/
def OnGrid (d : ℕ) (a : Float32) : Prop :=
  ∃ k : ℕ, a = Float32.ofInt k / Float32.ofInt d ∧ nearHundredth a (k * (100 / d)) = true

/-- Quotients by a divisor of 100 are equal as soon as they are closer than a thousandth. -/
theorem OnGrid.eq_of_lt {d : ℕ} (hd : 0 < 100 / d) {a b : Float32} (ha : OnGrid d a)
    (hb : OnGrid d b) (h : (a - b).abs < 0.001) : a = b := by
  obtain ⟨k, hka, hna⟩ := ha
  obtain ⟨j, hjb, hnb⟩ := hb
  by_cases hkj : k = j
  · rw [hka, hjb, hkj]
  · have hne : k * (100 / d) ≠ j * (100 / d) := by
      intro heq
      exact hkj (Nat.eq_of_mul_eq_mul_right hd heq)
    exact absurd h (hundredths_apart hna hnb hne)

end Binary32
