/-
# More load is more pressure

The four raw pressures are maxima of readings, each scaled to `[0, 1]`, with a floor of `0.90` where
a memory reserve is small; the smoothing and the total are monotone in them.  In exact arithmetic a
reading that grows makes no pressure smaller, with two exceptions in which the estimator drops what
it has read.  The load of the whole adapter counts in full only while the load of the process stays
below `0.70`; from there on it is discounted, and the pressure falls to what the process explains.
And a paging pressure beyond `1` is no reading (`evaluate_monotone`).
-/
import Kf2Optimizer.Optimizer.Pressure

namespace Kf2Optimizer.Optimizer

open DoubleOps ResourcePressureInput

/-! ## 1. Readings -/

/-- A reading that is there in both inputs or in neither, and has not become smaller. -/
abbrev AtLeast (x y : Option ℚ) : Prop := Option.Rel (· ≤ ·) x y

theorem AtLeast.isSome_eq {x y : Option ℚ} (h : AtLeast x y) : x.isSome = y.isSome := by
  cases h <;> rfl

theorem orZero_mono {x y : Option ℚ} (h : AtLeast x y) : orZero x ≤ orZero y := by
  cases h with
  | none => exact le_rfl
  | some h => exact h

theorem normalized_exact {healthy critical : ℚ} (h : healthy < critical) (v : ℚ) :
    normalized v healthy critical =
      Max.max 0 (Min.min ((v - healthy) / (critical - healthy)) 1) := by
  have hcheck : (!isFinite v || le critical healthy) = false := by
    simpa [isFinite, le] using h
  unfold normalized
  rw [hcheck, if_neg Bool.false_ne_true]
  exact clamp_exact zero_le_one

theorem normalized_mono {healthy critical v v' : ℚ} (h : healthy < critical) (hv : v ≤ v') :
    normalized v healthy critical ≤ normalized v' healthy critical := by
  rw [normalized_exact h, normalized_exact h]
  have hpos : 0 ≤ critical - healthy := (sub_pos.mpr h).le
  exact max_le_max le_rfl
    (min_le_min (div_le_div_of_nonneg_right (sub_le_sub_right hv healthy) hpos) le_rfl)

theorem normalized_nonneg {healthy critical : ℚ} (h : healthy < critical) (v : ℚ) :
    0 ≤ normalized v healthy critical := by
  rw [normalized_exact h]
  exact le_max_left _ _

theorem normalized_of_critical_le {healthy critical v : ℚ} (h : healthy < critical)
    (hv : critical ≤ v) : normalized v healthy critical = 1 := by
  have hone : 1 ≤ (v - healthy) / (critical - healthy) :=
    (one_le_div (sub_pos.mpr h)).mpr (sub_le_sub_right hv healthy)
  rw [normalized_exact h, min_eq_right hone]
  exact max_eq_right zero_le_one

/-- A usage that is a reading. -/
theorem validNonnegative_iff {v : ℚ} : validNonnegative (some v) = true ↔ 0 ≤ v := by
  simp [validNonnegative, isFinite, le, ofRat]

theorem occupancy_some {u b : ℚ} :
    occupancy (some u) (some b) =
      if 0 ≤ u ∧ 0 < b then some (Max.max 0 (Min.min (u / b) 1)) else none := by
  have hcheck : (!validNonnegative (some u) || !validNonnegative (some b) || le b (ofRat 0)) = true ↔
      ¬ (0 ≤ u ∧ 0 < b) := by
    simp only [Bool.or_eq_true, Bool.not_eq_true', ← Bool.not_eq_true, validNonnegative_iff, le,
      ofRat, decide_eq_true_eq]
    constructor
    · rintro ((hu | hb) | hb) ⟨hu', hb'⟩
      · exact hu hu'
      · exact hb hb'.le
      · exact absurd hb' (not_lt.mpr hb)
    · intro h
      by_cases hu : 0 ≤ u
      · exact .inr (not_lt.mp fun hb => h ⟨hu, hb⟩)
      · exact .inl (.inl hu)
  unfold occupancy
  simp only
  by_cases h : 0 ≤ u ∧ 0 < b
  · rw [if_neg fun hc => hcheck.mp hc h, if_pos h]
    exact congrArg some (clamp_exact zero_le_one)
  · rw [if_pos (hcheck.mpr h), if_neg h]

/-- The usage of a memory beside its budget. -/
theorem occupancy_mono {x y : Option ℚ} (h : AtLeast x y) (budget : Option ℚ) :
    orZero (occupancy x budget) ≤ orZero (occupancy y budget) := by
  cases h with
  | none => exact le_rfl
  | @some u v huv =>
    cases budget with
    | none => exact le_rfl
    | some b =>
      rw [occupancy_some, occupancy_some]
      by_cases hu : 0 ≤ u ∧ 0 < b
      · rw [if_pos hu, if_pos ⟨hu.1.trans huv, hu.2⟩]
        exact max_le_max le_rfl (min_le_min (div_le_div_of_nonneg_right huv hu.2.le) le_rfl)
      · rw [if_neg hu]
        split
        · exact le_max_left _ _
        · exact le_rfl

/-! ## 2. Memory -/

/-- What a small reserve raises a pressure to. -/
def reserveFloor (reserveBytes : Option ℚ) (limit : ℚ) : ℚ :=
  match reserveBytes with
  | some bytes => if bytes < limit then 90 / 100 else 0
  | none => 0

/-- The reserve of a memory whose measurement is complete. -/
def completeReserve (used budget : Option ℚ) : Option ℚ :=
  if (occupancy used budget).isSome then reserve used budget else none

/-- The pressure of one memory. -/
def usagePressure (used budget : Option ℚ) (healthy critical limit : ℚ) : ℚ :=
  Max.max (normalized (orZero (occupancy used budget)) healthy critical)
    (reserveFloor (completeReserve used budget) limit)

theorem raiseOnReserve_exact {raw : ℚ} (h : 0 ≤ raw) (reserveBytes : Option ℚ) (limit : ℚ) :
    raiseOnReserve raw reserveBytes limit = Max.max raw (reserveFloor reserveBytes limit) := by
  cases reserveBytes with
  | none => exact (max_eq_left h).symm
  | some bytes =>
    unfold raiseOnReserve reserveFloor
    by_cases hlt : bytes < limit
    · simp only [lt_exact, if_pos hlt]
      exact max_exact raw (90 / 100)
    · simp only [lt_exact, if_neg hlt]
      exact (max_eq_left h).symm

/-- A reserve that is small stays so, or the memory is over its budget. -/
theorem reserveFloor_le {u v b : ℚ} (huv : u ≤ v) (limit : ℚ) {healthy critical : ℚ}
    (h : healthy < critical) (hcritical : critical ≤ 1) :
    reserveFloor (completeReserve (some u) (some b)) limit ≤
      usagePressure (some v) (some b) healthy critical limit := by
  unfold usagePressure
  have hnonneg := (normalized_nonneg h (orZero (occupancy (some v) (some b)))).trans
    (le_max_left _ (reserveFloor (completeReserve (some v) (some b)) limit))
  unfold completeReserve
  rw [occupancy_some, occupancy_some]
  rw [completeReserve, occupancy_some] at hnonneg
  by_cases hu : 0 ≤ u ∧ 0 < b
  · have hv : 0 ≤ v ∧ 0 < b := ⟨hu.1.trans huv, hu.2⟩
    rw [if_pos hv] at hnonneg ⊢
    rw [if_pos hu]
    by_cases hfits : v ≤ b
    · refine le_max_of_le_right ?_
      simp only [Option.isSome_some, if_true, reserve, le_exact, if_pos (huv.trans hfits),
        if_pos hfits, reserveFloor, sub]
      by_cases hsmall : b - u < limit
      · rw [if_pos hsmall, if_pos (by linarith)]
      · rw [if_neg hsmall]
        split <;> norm_num
    · have hfull : Max.max 0 (Min.min (v / b) 1) = 1 := by
        rw [min_eq_right ((one_le_div hu.2).mpr (not_le.mp hfits).le)]
        exact max_eq_right zero_le_one
      refine le_max_of_le_left ?_
      rw [hfull, orZero, Option.getD_some, normalized_of_critical_le h hcritical]
      unfold reserveFloor
      split
      · split <;> norm_num
      · norm_num
  · rw [if_neg hu]
    exact hnonneg

/-- **More of a memory in use is more pressure.** -/
theorem usagePressure_mono {x y : Option ℚ} (hxy : AtLeast x y) (budget : Option ℚ)
    {healthy critical limit : ℚ} (h : healthy < critical) (hcritical : critical ≤ 1) :
    usagePressure x budget healthy critical limit ≤
      usagePressure y budget healthy critical limit := by
  refine max_le ?_ ?_
  · exact (normalized_mono h (occupancy_mono hxy budget)).trans (le_max_left _ _)
  · cases hxy with
    | none => exact le_max_right _ _
    | some huv =>
      cases budget with
      | none => exact le_max_right _ _
      | some b => exact reserveFloor_le huv limit h hcritical

/-! ## 3. Raw pressures -/

/-- Two inputs of one moment.  They differ in what is used, and every usage of the second is at least
that of the first. -/
structure Busier (a b : ResourcePressureInput ℚ) : Prop where
  timestampNs : b.timestampNs = a.timestampNs
  targetFps : b.targetFps = a.targetFps
  frameTimeMs : b.frameTimeMs = a.frameTimeMs
  p95FrameTimeMs : b.p95FrameTimeMs = a.p95FrameTimeMs
  affinityLogicalProcessors : b.affinityLogicalProcessors = a.affinityLogicalProcessors
  vramBudgetBytes : b.vramBudgetBytes = a.vramBudgetBytes
  ramBudgetBytes : b.ramBudgetBytes = a.ramBudgetBytes
  commitBudgetBytes : b.commitBudgetBytes = a.commitBudgetBytes
  discontinuity : b.discontinuity = a.discontinuity
  processCpuPercent : AtLeast a.processCpuPercent b.processCpuPercent
  systemCpuPercent : AtLeast a.systemCpuPercent b.systemCpuPercent
  criticalThreadPercent : AtLeast a.criticalThreadPercent b.criticalThreadPercent
  effectiveCoreUsage : AtLeast a.effectiveCoreUsage b.effectiveCoreUsage
  processGpuPercent : AtLeast a.processGpuPercent b.processGpuPercent
  adapterGpuPercent : AtLeast a.adapterGpuPercent b.adapterGpuPercent
  vramUsedBytes : AtLeast a.vramUsedBytes b.vramUsedBytes
  ramUsedBytes : AtLeast a.ramUsedBytes b.ramUsedBytes
  commitUsedBytes : AtLeast a.commitUsedBytes b.commitUsedBytes
  processPrivateBytes : AtLeast a.processPrivateBytes b.processPrivateBytes
  pagingPressure : AtLeast a.pagingPressure b.pagingPressure

namespace Busier

variable {a b : ResourcePressureInput ℚ}

theorem frameBudgetMissed (h : Busier a b) : b.frameBudgetMissed = a.frameBudgetMissed := by
  unfold ResourcePressureInput.frameBudgetMissed observedMs targetMs
  rw [h.targetFps, h.p95FrameTimeMs, h.frameTimeMs]

theorem capacity (h : Busier a b) : (b.capacity : ℚ) = a.capacity := by
  unfold ResourcePressureInput.capacity
  rw [h.affinityLogicalProcessors]

theorem parallelPercent (h : Busier a b) : a.parallelPercent ≤ b.parallelPercent := by
  unfold ResourcePressureInput.parallelPercent
  rw [h.capacity]
  by_cases hpos : lt (ofRat 0) (a.capacity : ℚ) = true
  · rw [if_pos hpos, if_pos hpos]
    have hcores : orZero a.effectiveCoreUsage * 100 ≤ orZero b.effectiveCoreUsage * 100 :=
      mul_le_mul_of_nonneg_right (orZero_mono h.effectiveCoreUsage) (by norm_num)
    exact div_le_div_of_nonneg_right hcores (lt_exact.mp hpos).le
  · rw [if_neg hpos, if_neg hpos]

theorem processCpu (h : Busier a b) : a.processCpu ≤ b.processCpu := by
  have hpercent : (ofRat 65 : ℚ) < ofRat 92 := by norm_num [ofRat]
  have hthread : (ofRat 65 : ℚ) < ofRat 96 := by norm_num [ofRat]
  have hparallel : (ofRat 55 : ℚ) < ofRat 85 := by norm_num [ofRat]
  exact max_mono (max_mono (normalized_mono hpercent (orZero_mono h.processCpuPercent))
    (normalized_mono hthread (orZero_mono h.criticalThreadPercent)))
    (normalized_mono hparallel h.parallelPercent)

theorem systemCpu (h : Busier a b) : a.systemCpu ≤ b.systemCpu :=
  normalized_mono (by norm_num [ofRat]) (orZero_mono h.systemCpuPercent)

/-- **CPU.** -/
theorem cpu_raw (h : Busier a b) : a.cpuSignal.raw ≤ b.cpuSignal.raw := by
  refine max_mono h.processCpu ?_
  rw [h.frameBudgetMissed]
  split
  · exact h.systemCpu
  · exact mul_le_mul_of_nonneg_right h.systemCpu (by norm_num [ofRat])

theorem processGpu (h : Busier a b) : a.processGpu ≤ b.processGpu :=
  normalized_mono (by norm_num [ofRat]) (orZero_mono h.processGpuPercent)

theorem adapterGpu (h : Busier a b) : a.adapterGpu ≤ b.adapterGpu :=
  normalized_mono (by norm_num [ofRat]) (orZero_mono h.adapterGpuPercent)

theorem adapterGpu_nonneg (a : ResourcePressureInput ℚ) : 0 ≤ a.adapterGpu :=
  normalized_nonneg (by norm_num [ofRat]) _

/-- What counts in full goes on to, until the process explains the pressure. -/
theorem sharedGpu (h : Busier a b) (hshared : a.sharedGpu = true)
    (hprocess : b.processGpu < 70 / 100) : b.sharedGpu = true := by
  simp only [ResourcePressureInput.sharedGpu, Bool.and_eq_true, le_exact, lt_exact] at hshared ⊢
  obtain ⟨⟨hmissed, hadapter⟩, -⟩ := hshared
  exact ⟨⟨h.frameBudgetMissed.trans hmissed, hadapter.trans h.adapterGpu⟩, hprocess⟩

end Busier

/-- The load of the process has reached the threshold from which the load of the adapter, which has
counted in full, is discounted. -/
def Attributed (a b : ResourcePressureInput ℚ) : Prop :=
  a.sharedGpu = true ∧ 70 / 100 ≤ b.processGpu

/-- The paging pressure is no reading any more. -/
def PagingLost (a b : ResourcePressureInput ℚ) : Prop :=
  a.pagingValid = true ∧ b.pagingValid = false

namespace Busier

variable {a b : ResourcePressureInput ℚ}

/-- **GPU.** -/
theorem gpu_raw (h : Busier a b) (hnot : ¬ Attributed a b) :
    a.gpuSignal.raw ≤ b.gpuSignal.raw := by
  simp only [gpuSignal]
  rw [← h.processGpuPercent.isSome_eq]
  split
  · refine max_mono h.processGpu ?_
    cases hshared : a.sharedGpu with
    | true =>
      have hprocess : b.processGpu < 70 / 100 := not_le.mp fun hle => hnot ⟨hshared, hle⟩
      rw [h.sharedGpu hshared hprocess]
      exact mul_le_mul_of_nonneg_right h.adapterGpu (by norm_num [ofRat])
    | false =>
      simp only [Bool.false_eq_true, if_false, mul, ofRat]
      have hadapter : a.adapterGpu * (65 / 100) ≤ b.adapterGpu * (65 / 100) :=
        mul_le_mul_of_nonneg_right h.adapterGpu (by norm_num)
      refine hadapter.trans (mul_le_mul_of_nonneg_left ?_ (adapterGpu_nonneg b))
      split <;> norm_num
  · exact h.adapterGpu

/-- Where the adapter is discounted, the process alone is at the threshold. -/
theorem gpu_raw_of_attributed (h : Busier a b) :
    Min.min a.gpuSignal.raw (70 / 100) ≤ b.gpuSignal.raw := by
  by_cases hattributed : Attributed a b
  · refine (min_le_right _ _).trans ?_
    simp only [gpuSignal]
    cases hprocess : b.processGpuPercent with
    | none =>
      have hle := hattributed.2
      have hlt : (b.processGpu : ℚ) < 70 / 100 := by
        unfold ResourcePressureInput.processGpu
        rw [hprocess]
        decide +kernel
      exact absurd hle (not_le.mpr hlt)
    | some percent =>
      simp only [Option.isSome_some, if_true, max_exact]
      exact le_max_of_le_left hattributed.2
  · exact (min_le_left _ _).trans (h.gpu_raw hattributed)

theorem vramSignal_raw (a : ResourcePressureInput ℚ) :
    a.vramSignal.raw =
      usagePressure a.vramUsedBytes a.vramBudgetBytes (80 / 100) (97 / 100)
        (1 / 2 * (1024 * 1024 * 1024)) :=
  raiseOnReserve_exact (normalized_nonneg (by norm_num [ofRat]) _) _ _

/-- **VRAM.** -/
theorem vram_raw (h : Busier a b) : a.vramSignal.raw ≤ b.vramSignal.raw := by
  rw [vramSignal_raw, vramSignal_raw, h.vramBudgetBytes]
  exact usagePressure_mono h.vramUsedBytes _ (by norm_num) (by norm_num)

/-- The paging pressure that counts. -/
def paging (a : ResourcePressureInput ℚ) : ℚ :=
  if a.pagingValid then orZero a.pagingPressure else 0

theorem ramSignal_raw (a : ResourcePressureInput ℚ) :
    a.ramSignal.raw =
      Max.max (usagePressure a.ramUsedBytes a.ramBudgetBytes (78 / 100) (96 / 100)
          (1 * (1024 * 1024 * 1024)))
        (Max.max (usagePressure a.commitUsedBytes a.commitBudgetBytes (75 / 100) (95 / 100)
          (1 * (1024 * 1024 * 1024))) (paging a)) := by
  have hram := normalized_nonneg (show (78 / 100 : ℚ) < 96 / 100 by norm_num)
    (orZero (occupancy a.ramUsedBytes a.ramBudgetBytes))
  have hraw : a.ramSignal.raw = raiseOnReserve (raiseOnReserve (DoubleOps.max (DoubleOps.max
      (normalized (orZero (occupancy a.ramUsedBytes a.ramBudgetBytes)) (78 / 100) (96 / 100))
      (normalized (orZero (occupancy a.commitUsedBytes a.commitBudgetBytes)) (75 / 100) (95 / 100)))
      (paging a)) (completeReserve a.ramUsedBytes a.ramBudgetBytes) (1 * (1024 * 1024 * 1024)))
      (completeReserve a.commitUsedBytes a.commitBudgetBytes) (1 * (1024 * 1024 * 1024)) := rfl
  rw [hraw, max_exact, max_exact]
  have hnonneg : 0 ≤ Max.max (Max.max
      (normalized (orZero (occupancy a.ramUsedBytes a.ramBudgetBytes)) (78 / 100) (96 / 100))
      (normalized (orZero (occupancy a.commitUsedBytes a.commitBudgetBytes)) (75 / 100) (95 / 100)))
      (paging a) :=
    le_max_of_le_left (le_max_of_le_left hram)
  rw [raiseOnReserve_exact hnonneg, raiseOnReserve_exact (le_max_of_le_left hnonneg)]
  unfold usagePressure
  ac_rfl

/-- **RAM.** -/
theorem ram_raw (h : Busier a b) (hnot : ¬ PagingLost a b) :
    a.ramSignal.raw ≤ b.ramSignal.raw := by
  rw [ramSignal_raw, ramSignal_raw, h.ramBudgetBytes, h.commitBudgetBytes]
  refine max_le_max (usagePressure_mono h.ramUsedBytes _ (by norm_num) (by norm_num))
    (max_le_max (usagePressure_mono h.commitUsedBytes _ (by norm_num) (by norm_num)) ?_)
  unfold paging
  cases ha : a.pagingValid with
  | true =>
    cases hb : b.pagingValid with
    | true => exact orZero_mono h.pagingPressure
    | false => exact absurd ⟨ha, hb⟩ hnot
  | false =>
    simp only [Bool.false_eq_true, if_false]
    cases hb : b.pagingValid with
    | false => exact le_rfl
    | true =>
      cases hpaging : b.pagingPressure with
      | none => exact le_rfl
      | some p =>
        simp only [pagingValid, hpaging, Bool.and_eq_true, validNonnegative_iff] at hb
        exact hb.1

end Busier

/-! ## 4. Smoothing -/

/-- The second signal is at least the first one. -/
structure NotLess (s t : ResourcePressureSignal ℚ) : Prop where
  raw : s.raw ≤ t.raw
  smoothed : s.smoothed ≤ t.smoothed

/-- The attack is faster than the release, and both move towards the raw pressure. -/
theorem SignalState.smooth_mono (state : SignalState ℚ) {s t : ResourcePressureSignal ℚ}
    (h : s.raw ≤ t.raw) : NotLess (state.smooth s).2 (state.smooth t).2 := by
  refine ⟨h, clamp_mono zero_le_one ?_⟩
  cases state.initialized with
  | false => exact h
  | true =>
    simp only [Bool.not_true, Bool.false_eq_true, if_false, lt_exact, add, mul, sub, ofRat]
    by_cases hs : state.smoothed < s.raw
    · rw [if_pos hs, if_pos (hs.trans_le h)]
      linarith
    · rw [if_neg hs]
      split
      · linarith
      · linarith

theorem SignalState.smooth_raw (state : SignalState ℚ) (s : ResourcePressureSignal ℚ) :
    (state.smooth s).2.raw = s.raw := rfl

theorem SignalState.smooth_confidence (state : SignalState ℚ) (s : ResourcePressureSignal ℚ) :
    (state.smooth s).2.confidence = s.confidence := rfl

/-! ## 5. The evidence -/

/-- What the evidence loop makes of the four signals. -/
def evidenceOf (cpu gpu vram ram : ResourcePressureSignal ℚ) : Evidence ℚ :=
  let none' : Evidence ℚ := ⟨ofRat 0, .unknown, ofRat 0, ofRat 0, 0, false, false⟩
  (((none'.weigh .cpu cpu).weigh .gpu gpu).weigh .vram vram).weigh .ram ram

theorem evidenceOf_total_mono {cpu gpu vram ram cpu' gpu' vram' ram' : ResourcePressureSignal ℚ}
    (hcpu : NotLess cpu cpu') (hgpu : NotLess gpu gpu') (hvram : NotLess vram vram')
    (hram : NotLess ram ram') :
    (evidenceOf cpu gpu vram ram).total ≤ (evidenceOf cpu' gpu' vram' ram').total :=
  max_mono (max_mono (max_mono (max_mono le_rfl hcpu.smoothed) hgpu.smoothed) hvram.smoothed)
    hram.smoothed

/-- What is available is a matter of the confidences. -/
theorem evidenceOf_available {cpu gpu vram ram cpu' gpu' vram' ram' : ResourcePressureSignal ℚ}
    (hcpu : cpu'.confidence = cpu.confidence) (hgpu : gpu'.confidence = gpu.confidence)
    (hvram : vram'.confidence = vram.confidence) (hram : ram'.confidence = ram.confidence) :
    (evidenceOf cpu' gpu' vram' ram').available = (evidenceOf cpu gpu vram ram).available ∧
      (evidenceOf cpu' gpu' vram' ram').compute = (evidenceOf cpu gpu vram ram).compute ∧
      (evidenceOf cpu' gpu' vram' ram').memory = (evidenceOf cpu gpu vram ram).memory := by
  simp only [evidenceOf, Evidence.weigh, hcpu, hgpu, hvram, hram, and_self]

/-- What is a reading of the second input is one of the first. -/
structure Measured (a b : ResourcePressureInput ℚ) : Prop where
  vram : validNonnegative b.vramUsedBytes = true → validNonnegative a.vramUsedBytes = true
  ram : validNonnegative b.ramUsedBytes = true → validNonnegative a.ramUsedBytes = true
  commit : validNonnegative b.commitUsedBytes = true → validNonnegative a.commitUsedBytes = true
  privateBytes :
    validNonnegative b.processPrivateBytes = true → validNonnegative a.processPrivateBytes = true
  paging : b.pagingValid = true → a.pagingValid = true

theorem validNonnegative_eq {x y : Option ℚ} (h : AtLeast x y)
    (hvalid : validNonnegative y = true → validNonnegative x = true) :
    validNonnegative y = validNonnegative x := by
  refine Bool.eq_iff_iff.mpr ⟨hvalid, fun hx => ?_⟩
  cases h with
  | none => exact hx
  | some huv => exact validNonnegative_iff.mpr ((validNonnegative_iff.mp hx).trans huv)

theorem occupancy_isSome_eq {x y : Option ℚ} (h : AtLeast x y)
    (hvalid : validNonnegative y = true → validNonnegative x = true) (budget : Option ℚ) :
    (occupancy y budget).isSome = (occupancy x budget).isSome := by
  have heq := validNonnegative_eq h hvalid
  cases h with
  | none => rfl
  | @some u v huv =>
    cases budget with
    | none => rfl
    | some b =>
      have hiff : 0 ≤ v ↔ 0 ≤ u := by
        rw [← validNonnegative_iff, ← validNonnegative_iff, heq]
      rw [occupancy_some, occupancy_some]
      simp only [hiff]
      split <;> rfl

namespace Busier

variable {a b : ResourcePressureInput ℚ}

theorem cpu_confidence (h : Busier a b) : b.cpuSignal.confidence = a.cpuSignal.confidence := by
  simp only [cpuSignal, h.processCpuPercent.isSome_eq, h.systemCpuPercent.isSome_eq,
    h.criticalThreadPercent.isSome_eq, h.effectiveCoreUsage.isSome_eq, h.capacity]

theorem gpu_confidence (h : Busier a b) : b.gpuSignal.confidence = a.gpuSignal.confidence := by
  have hnone : b.processGpuPercent.isNone = a.processGpuPercent.isNone := by
    rw [← Option.not_isSome, ← Option.not_isSome, h.processGpuPercent.isSome_eq]
  simp only [gpuSignal, hnone, h.processGpuPercent.isSome_eq, h.adapterGpuPercent.isSome_eq]

theorem vram_confidence (h : Busier a b) (hmeasured : Measured a b) :
    b.vramSignal.confidence = a.vramSignal.confidence := by
  simp only [vramSignal, h.vramBudgetBytes,
    occupancy_isSome_eq h.vramUsedBytes hmeasured.vram]

theorem ram_confidence (h : Busier a b) (hmeasured : Measured a b) (hpaging : ¬ PagingLost a b) :
    b.ramSignal.confidence = a.ramSignal.confidence := by
  have hvalid : b.pagingValid = a.pagingValid := by
    refine Bool.eq_iff_iff.mpr ⟨hmeasured.paging, fun ha => ?_⟩
    by_contra hb
    exact hpaging ⟨ha, Bool.eq_false_of_not_eq_true hb⟩
  simp only [ramSignal, h.ramBudgetBytes, h.commitBudgetBytes, hvalid,
    occupancy_isSome_eq h.ramUsedBytes hmeasured.ram,
    occupancy_isSome_eq h.commitUsedBytes hmeasured.commit,
    validNonnegative_eq h.processPrivateBytes hmeasured.privateBytes]

end Busier

/-! ## 6. The estimator -/

namespace ResourcePressureEstimator

/-- The state from which an evaluation goes on. -/
def start (e : ResourcePressureEstimator ℚ) (input : ResourcePressureInput ℚ) :
    ResourcePressureEstimator ℚ :=
  if input.discontinuity || decide (input.timestampNs < e.previousTimestampNs) then init else e

variable {a b : ResourcePressureInput ℚ}

theorem start_eq (e : ResourcePressureEstimator ℚ) (h : Busier a b) : e.start b = e.start a := by
  unfold start
  rw [h.discontinuity, h.timestampNs]

theorem evaluate_cpu (e : ResourcePressureEstimator ℚ) (input : ResourcePressureInput ℚ) :
    (e.evaluate input).2.cpu = ((e.start input).cpu.smooth input.cpuSignal).2 := rfl

theorem evaluate_gpu (e : ResourcePressureEstimator ℚ) (input : ResourcePressureInput ℚ) :
    (e.evaluate input).2.gpu = ((e.start input).gpu.smooth input.gpuSignal).2 := rfl

theorem evaluate_vram (e : ResourcePressureEstimator ℚ) (input : ResourcePressureInput ℚ) :
    (e.evaluate input).2.vram = ((e.start input).vram.smooth input.vramSignal).2 := rfl

theorem evaluate_ram (e : ResourcePressureEstimator ℚ) (input : ResourcePressureInput ℚ) :
    (e.evaluate input).2.ram = ((e.start input).ram.smooth input.ramSignal).2 := rfl

/-- The evidence of an evaluation. -/
def evidence (e : ResourcePressureEstimator ℚ) (input : ResourcePressureInput ℚ) : Evidence ℚ :=
  evidenceOf (e.evaluate input).2.cpu (e.evaluate input).2.gpu (e.evaluate input).2.vram
    (e.evaluate input).2.ram

theorem evaluate_total (e : ResourcePressureEstimator ℚ) (input : ResourcePressureInput ℚ) :
    (e.evaluate input).2.total = (e.evidence input).total := by
  unfold evidence
  rfl

theorem evaluate_recoverySafe (e : ResourcePressureEstimator ℚ) (input : ResourcePressureInput ℚ) :
    (e.evaluate input).2.recoverySafe = true ↔
      2 ≤ (e.evidence input).available ∧ (e.evidence input).compute = true ∧
        (e.evidence input).memory = true ∧ (e.evidence input).total ≤ 55 / 100 := by
  have hsafe : (e.evaluate input).2.recoverySafe =
      (decide (2 ≤ (e.evidence input).available) && (e.evidence input).compute &&
        (e.evidence input).memory && le (e.evidence input).total (ofRat (55 / 100))) := rfl
  rw [hsafe]
  simp only [Bool.and_eq_true, decide_eq_true_eq, le_exact, and_assoc]
  rfl

/-- The second input has the same readings. -/
theorem evidence_available (e : ResourcePressureEstimator ℚ) (h : Busier a b)
    (hpaging : ¬ PagingLost a b) (hmeasured : Measured a b) :
    (e.evidence b).available = (e.evidence a).available ∧
      (e.evidence b).compute = (e.evidence a).compute ∧
      (e.evidence b).memory = (e.evidence a).memory := by
  refine evidenceOf_available ?_ ?_ ?_ ?_
  · rw [evaluate_cpu, evaluate_cpu, SignalState.smooth_confidence, SignalState.smooth_confidence]
    exact h.cpu_confidence
  · rw [evaluate_gpu, evaluate_gpu, SignalState.smooth_confidence, SignalState.smooth_confidence]
    exact h.gpu_confidence
  · rw [evaluate_vram, evaluate_vram, SignalState.smooth_confidence, SignalState.smooth_confidence]
    exact h.vram_confidence hmeasured
  · rw [evaluate_ram, evaluate_ram, SignalState.smooth_confidence, SignalState.smooth_confidence]
    exact h.ram_confidence hmeasured hpaging

/-- **More load is more pressure.**  Where every usage of the second input is at least that of the
first, and nothing else differs, no pressure of CPU and VRAM becomes smaller, nor that of the GPU
unless the load of the process has reached the threshold from which the load of the adapter is
discounted, nor that of RAM unless the paging pressure is no reading any more; the raw pressure of
the GPU stays at the threshold even then.  Without these exceptions the total does not become
smaller either, and a recovery that is safe for the second input is safe for the first, as long as
its readings are readings there. -/
theorem evaluate_monotone (e : ResourcePressureEstimator ℚ) (h : Busier a b) :
    NotLess (e.evaluate a).2.cpu (e.evaluate b).2.cpu ∧
      NotLess (e.evaluate a).2.vram (e.evaluate b).2.vram ∧
      (¬ Attributed a b → NotLess (e.evaluate a).2.gpu (e.evaluate b).2.gpu) ∧
      Min.min (e.evaluate a).2.gpu.raw (70 / 100) ≤ (e.evaluate b).2.gpu.raw ∧
      (¬ PagingLost a b → NotLess (e.evaluate a).2.ram (e.evaluate b).2.ram) ∧
      (¬ Attributed a b → ¬ PagingLost a b →
        (e.evaluate a).2.total ≤ (e.evaluate b).2.total ∧
          (Measured a b → (e.evaluate b).2.recoverySafe = true →
            (e.evaluate a).2.recoverySafe = true)) := by
  have hcpu : NotLess (e.evaluate a).2.cpu (e.evaluate b).2.cpu := by
    rw [evaluate_cpu, evaluate_cpu, start_eq e h]
    exact SignalState.smooth_mono _ h.cpu_raw
  have hvram : NotLess (e.evaluate a).2.vram (e.evaluate b).2.vram := by
    rw [evaluate_vram, evaluate_vram, start_eq e h]
    exact SignalState.smooth_mono _ h.vram_raw
  have hgpu : ¬ Attributed a b → NotLess (e.evaluate a).2.gpu (e.evaluate b).2.gpu := by
    intro hnot
    rw [evaluate_gpu, evaluate_gpu, start_eq e h]
    exact SignalState.smooth_mono _ (h.gpu_raw hnot)
  have hram : ¬ PagingLost a b → NotLess (e.evaluate a).2.ram (e.evaluate b).2.ram := by
    intro hnot
    rw [evaluate_ram, evaluate_ram, start_eq e h]
    exact SignalState.smooth_mono _ (h.ram_raw hnot)
  have hthreshold : Min.min (e.evaluate a).2.gpu.raw (70 / 100) ≤ (e.evaluate b).2.gpu.raw := by
    rw [evaluate_gpu, evaluate_gpu, SignalState.smooth_raw, SignalState.smooth_raw]
    exact h.gpu_raw_of_attributed
  refine ⟨hcpu, hvram, hgpu, hthreshold, hram, fun hnot hpaging => ?_⟩
  have htotal : (e.evidence a).total ≤ (e.evidence b).total :=
    evidenceOf_total_mono hcpu (hgpu hnot) hvram (hram hpaging)
  refine ⟨htotal, fun hmeasured hsafe => ?_⟩
  obtain ⟨havailable, hcompute, hmemory⟩ := evidence_available e h hpaging hmeasured
  rw [evaluate_recoverySafe] at hsafe ⊢
  rw [havailable, hcompute, hmemory] at hsafe
  exact ⟨hsafe.1, hsafe.2.1, hsafe.2.2.1, htotal.trans hsafe.2.2.2⟩

end ResourcePressureEstimator

/-! ## 7. Two busy inputs -/

/-- A missed frame budget, a full adapter, and a process just below the threshold. -/
def sharedInput : ResourcePressureInput ℚ where
  timestampNs := 1
  targetFps := 60
  frameTimeMs := none
  p95FrameTimeMs := some 40
  processCpuPercent := some 10
  systemCpuPercent := some 10
  criticalThreadPercent := none
  effectiveCoreUsage := none
  affinityLogicalProcessors := none
  processGpuPercent := some 80
  adapterGpuPercent := some 99
  vramUsedBytes := some (2 ^ 30)
  vramBudgetBytes := some (2 ^ 33)
  ramUsedBytes := none
  ramBudgetBytes := none
  commitUsedBytes := none
  commitBudgetBytes := none
  processPrivateBytes := none
  pagingPressure := some 0

/-- The pressure of the GPU has been low. -/
def risingEstimator : ResourcePressureEstimator ℚ :=
  { (.init : ResourcePressureEstimator ℚ) with gpu := ⟨true, 1 / 10, 1 / 10⟩ }

/-- An input with other readings of the process, of its VRAM and of paging. -/
def ResourcePressureInput.reading (input : ResourcePressureInput ℚ) (gpu vram paging : ℚ) :
    ResourcePressureInput ℚ :=
  { input with processGpuPercent := some gpu, vramUsedBytes := some vram, pagingPressure := some paging }

theorem busier_reading {gpu vram paging gpu' vram' paging' : ℚ} (hgpu : gpu ≤ gpu')
    (hvram : vram ≤ vram') (hpaging : paging ≤ paging') :
    Busier (sharedInput.reading gpu vram paging) (sharedInput.reading gpu' vram' paging') where
  timestampNs := rfl
  targetFps := rfl
  frameTimeMs := rfl
  p95FrameTimeMs := rfl
  affinityLogicalProcessors := rfl
  vramBudgetBytes := rfl
  ramBudgetBytes := rfl
  commitBudgetBytes := rfl
  discontinuity := rfl
  processCpuPercent := .some le_rfl
  systemCpuPercent := .some le_rfl
  criticalThreadPercent := .none
  effectiveCoreUsage := .none
  processGpuPercent := .some hgpu
  adapterGpuPercent := .some le_rfl
  vramUsedBytes := .some hvram
  ramUsedBytes := .none
  commitUsedBytes := .none
  processPrivateBytes := .none
  pagingPressure := .some hpaging

/-- The process uses more VRAM. -/
theorem evaluate_monotone_vram :
    (ResourcePressureEstimator.init.evaluate (sharedInput.reading 80 (2 ^ 30) 0)).2.vram.raw ≤
      (ResourcePressureEstimator.init.evaluate (sharedInput.reading 80 (2 ^ 33) 0)).2.vram.raw :=
  (ResourcePressureEstimator.evaluate_monotone .init
    (busier_reading (by norm_num) (by norm_num) (by norm_num))).2.1.raw

/-- **Busier and calmer.**  A process that reaches the threshold lowers the pressure of the GPU and the
total, and a recovery becomes safe; a paging pressure beyond `1` is no pressure; and a recovery
becomes safe with the first usage of VRAM that is a reading. -/
theorem busier_looks_calmer :
    (Busier (sharedInput.reading 80 (2 ^ 30) 0) (sharedInput.reading 90 (2 ^ 30) 0) ∧
        (risingEstimator.evaluate (sharedInput.reading 90 (2 ^ 30) 0)).2.gpu.raw <
          (risingEstimator.evaluate (sharedInput.reading 80 (2 ^ 30) 0)).2.gpu.raw ∧
        (risingEstimator.evaluate (sharedInput.reading 90 (2 ^ 30) 0)).2.gpu.smoothed <
          (risingEstimator.evaluate (sharedInput.reading 80 (2 ^ 30) 0)).2.gpu.smoothed ∧
        (risingEstimator.evaluate (sharedInput.reading 90 (2 ^ 30) 0)).2.total <
          (risingEstimator.evaluate (sharedInput.reading 80 (2 ^ 30) 0)).2.total ∧
        (risingEstimator.evaluate (sharedInput.reading 90 (2 ^ 30) 0)).2.recoverySafe = true ∧
        (risingEstimator.evaluate (sharedInput.reading 80 (2 ^ 30) 0)).2.recoverySafe = false) ∧
      (Busier (sharedInput.reading 80 (2 ^ 30) 1) (sharedInput.reading 80 (2 ^ 30) 2) ∧
        (risingEstimator.evaluate (sharedInput.reading 80 (2 ^ 30) 2)).2.ram.raw <
          (risingEstimator.evaluate (sharedInput.reading 80 (2 ^ 30) 1)).2.ram.raw) ∧
      Busier (sharedInput.reading 90 (-1) (-1)) (sharedInput.reading 90 0 (-1)) ∧
        (risingEstimator.evaluate (sharedInput.reading 90 0 (-1))).2.recoverySafe = true ∧
        (risingEstimator.evaluate (sharedInput.reading 90 (-1) (-1))).2.recoverySafe = false := by
  refine ⟨⟨busier_reading (by norm_num) le_rfl le_rfl, ?_⟩,
    ⟨busier_reading le_rfl le_rfl (by norm_num), ?_⟩, busier_reading le_rfl (by norm_num) le_rfl, ?_⟩
  · decide +kernel
  · decide +kernel
  · decide +kernel

end Kf2Optimizer.Optimizer
