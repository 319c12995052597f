/-
# What the governor is given

The policy, the sample and the manual locks that `AdaptiveGovernor::evaluate` reads
(`adaptive_governor.hpp`), the stability bands of a target frame rate
(`adaptive_stability.hpp`), and `validate_adaptive_sample`, which decides whether a sample may be
used at all.
-/
import Kf2Optimizer.Lib.Double
import Kf2Optimizer.Optimizer.Actuation

set_option linter.unusedSectionVars false

namespace Kf2Optimizer.Optimizer

open DoubleOps

variable {F : Type} [DoubleOps F]

/-! ## 1. Policies and samples -/

/-- `AdaptiveAggressiveness`. -/
inductive AdaptiveAggressiveness
  | conservative | balanced | aggressive
deriving DecidableEq, Repr

/-- `AdaptiveDataQuality`. -/
inductive AdaptiveDataQuality
  | notAvailable | degraded | valid
deriving DecidableEq, Repr

/-- `AdaptivePressure`. -/
inductive AdaptivePressure
  | observing | healthy | warning | intervention | emergency
deriving DecidableEq, Repr

/-- `AdaptiveControllerState`. -/
inductive AdaptiveControllerState
  | disabled | observing | stable | warning | intervention | emergency | targetUnreachable
  | frozen
deriving DecidableEq, Repr

/-- `AdaptiveDisposition`. -/
inductive AdaptiveDisposition
  | none | hold | shadow | proposed | keep | rollback | blocked | skippedUnavailable | pending
  | applied | failed | restartRequired
deriving DecidableEq, Repr

/-- `AdaptiveStabilityState`. -/
inductive AdaptiveStabilityState
  | stable | watch | correcting | hold | recovering | targetUnreachable
deriving DecidableEq, Repr

/-- `AdaptiveCpuWorkload`. -/
inductive AdaptiveCpuWorkload
  | unknown | idleOrFrameLimited | mainThreadDominant | partiallyParallel | broadlyParallel
deriving DecidableEq, Repr

/-- `AdaptiveBottleneck`. -/
inductive AdaptiveBottleneck
  | cpu | gpu | vram | ram | paging | rendering | animation | physics | ragdoll | particles | gore
  | streaming | ioPressure | thermalPower | mixed | unknown
deriving DecidableEq, Repr

/-- `ManualLockState` (`adaptive_registry.hpp`). -/
inductive ManualLockState
  | automatic | lockCurrent | lockMinimum | lockMaximum | manualValue
deriving DecidableEq, Repr

/-- `AdaptivePolicy`. -/
structure AdaptivePolicy (F : Type) where
  targetFps : ℤ
  aggressiveness : AdaptiveAggressiveness
  minimumQuality : ℤ
  maximumQuality : ℤ
  qualityChangeBudget : ℤ
  performanceHeadroom : F
  emergencyEnabled : Bool
  qualityRecoveryEnabled : Bool
  manualLocksEnabled : Bool
  shadowMode : Bool
  freshnessLimitNs : ℕ

/-- The capabilities `evaluate` reads of `AdaptiveCapabilities`. -/
structure AdaptiveCapabilities where
  corpseControl : AdaptiveCapabilityState := .unavailable
  goreControl : AdaptiveCapabilityState := .unavailable
  particleControl : AdaptiveCapabilityState := .unavailable

/-- `AdaptiveSample`. -/
structure AdaptiveSample (F : Type) where
  pid : ℕ
  processStartId : ℕ
  timestampNs : ℕ
  sessionGeneration : ℕ := 0
  mapGeneration : ℕ := 0
  frameGeneration : ℕ := 0
  frameStreamId : ℕ := 0
  adapterLuid : Option ℕ := none
  capabilities : AdaptiveCapabilities := {}
  fps : Option F := none
  averageFps : Option F := none
  frameTimeMs : Option F := none
  medianFrameTimeMs : Option F := none
  p95FrameTimeMs : Option F := none
  p99FrameTimeMs : Option F := none
  sustainedOnePercentLowFps : Option F := none
  onePercentLowFps : Option F := none
  pointOnePercentLowFps : Option F := none
  frameTimeVariance : Option F := none
  stutterCount : ℕ := 0
  cpuPercent : Option F := none
  systemCpuPercent : Option F := none
  criticalCorePercent : Option F := none
  effectiveCoreUsage : Option F := none
  dominantThreadSharePercent : Option F := none
  activeCpuThreads : Option ℕ := none
  affinityLogicalProcessors : Option ℕ := none
  affinityPhysicalCores : Option ℕ := none
  systemLogicalProcessors : Option ℕ := none
  processGpuPercent : Option F := none
  gpuPercent : Option F := none
  graphicsEnginePercent : Option F := none
  computeEnginePercent : Option F := none
  copyEnginePercent : Option F := none
  presentQueuePressure : Option F := none
  vramUsedBytes : Option F := none
  vramBudgetBytes : Option F := none
  ramUsedBytes : Option F := none
  ramBudgetBytes : Option F := none
  commitUsedBytes : Option F := none
  commitBudgetBytes : Option F := none
  processPrivateBytes : Option F := none
  pagingPressure : Option F := none
  ioPressure : Option F := none
  thermalPowerPressure : Option F := none
  renderingPressure : Option F := none
  animationPressure : Option F := none
  physicsPressure : Option F := none
  ragdollPressure : Option F := none
  particlePressure : Option F := none
  gorePressure : Option F := none
  streamingPressure : Option F := none
  liveCorpseBurden : Option ℤ := none
  userMaxDeadBodies : Option ℤ := none
  adaptiveCorpseRuntimeLimit : Option ℤ := none
  zedTimeProtected : Bool := false
  qualityScore : Option F := none
  minimumQualityReached : Bool := false
  gameplayContextFresh : Bool := false
  sampleLoss : Bool := false
  duplicateSample : Bool := false
  discontinuity : Bool := false
  sessionChanged : Bool := false
  mapChanged : Bool := false

/-- `AdaptiveManualLock`. -/
structure AdaptiveManualLock where
  setting : String
  state : ManualLockState

/-- `AdaptiveDataQualityReport`. -/
structure AdaptiveDataQualityReport (F : Type) where
  quality : AdaptiveDataQuality
  confidenceFactor : F
  reason : String
  sampleAgeNs : ℕ

/-! ## 2. Stability bands -/

/-- `AdaptiveStabilityBands`. -/
structure AdaptiveStabilityBands (F : Type) where
  targetFrameTimeMs : F
  warningFrameTimeMs : F
  correctiveFrameTimeMs : F
  criticalFrameTimeMs : F

/-- `valid_target_fps`. -/
def validTargetFps (targetFps : ℤ) : Bool := decide (30 ≤ targetFps) && decide (targetFps ≤ 240)

/-- `adaptive_stability_bands`. -/
def adaptiveStabilityBands (targetFps : ℤ) : AdaptiveStabilityBands F :=
  let target : F := ofInt targetFps
  let tolerance := clamp (mul target (ofRat (25 / 1000))) (ofRat 3) (ofRat 6)
  let warning := sub target (div tolerance (ofRat 3))
  let corrective := sub target (div (mul tolerance (ofRat 2)) (ofRat 3))
  let critical := sub target tolerance
  if !validTargetFps targetFps || !isFinite critical || le critical (ofRat 0) then
    ⟨ofRat 0, ofRat 0, ofRat 0, ofRat 0⟩
  else
    ⟨div (ofRat 1000) target, div (ofRat 1000) warning, div (ofRat 1000) corrective,
      div (ofRat 1000) critical⟩

/-! ## 3. Validation -/

/-- `finite_positive`. -/
def finitePositive : Option F → Bool
  | some v => isFinite v && lt (ofRat 0) v
  | none => false

/-- `finite_nonnegative`. -/
def finiteNonnegative : Option F → Bool
  | some v => isFinite v && le (ofRat 0) v
  | none => false

/-- Absent, or finite and between `0` and `bound`: `valid_percent`, `valid_pressure` and
`valid_core_usage` at their bounds. -/
def validUpTo (bound : ℚ) : Option F → Bool
  | some v => isFinite v && le (ofRat 0) v && le v (ofRat bound)
  | none => true

/-- `valid_percent`. -/
def validPercent : Option F → Bool := validUpTo 100

/-- `valid_pressure`. -/
def validPressure : Option F → Bool := validUpTo 1

/-- `valid_core_usage`. -/
def validCoreUsage : Option F → Bool := validUpTo 1024

/-- A condition on a reading that is there. -/
def present {α : Type} (p : α → Bool) : Option α → Bool
  | some v => p v
  | none => false

/-- A condition on two readings that are both there. -/
def presentBoth {α β : Type} (p : α → β → Bool) : Option α → Option β → Bool
  | some a, some b => p a b
  | _, _ => false

/-- The policy checks. -/
def invalidPolicy (policy : AdaptivePolicy F) : Bool :=
  !validTargetFps policy.targetFps || decide (policy.minimumQuality < 10) ||
    decide (100 < policy.maximumQuality) ||
    decide (policy.maximumQuality < policy.minimumQuality) ||
    decide (policy.qualityChangeBudget < 1) || decide (5 < policy.qualityChangeBudget) ||
    !isFinite policy.performanceHeadroom || lt policy.performanceHeadroom (ofRat 0) ||
    lt (ofRat (50 / 100)) policy.performanceHeadroom

/-- The checks on identity and time. -/
def invalidSource (sample : AdaptiveSample F) (nowNs : ℕ) : Bool :=
  sample.pid == 0 || sample.processStartId == 0 || sample.timestampNs == 0 ||
    decide (nowNs < sample.timestampNs)

/-- The checks on the primary readings. -/
def invalidPrimary (s : AdaptiveSample F) : Bool :=
  !finitePositive s.fps || !finitePositive s.frameTimeMs ||
    present (lt (ofRat 1000)) s.fps || present (lt (ofRat 1000)) s.frameTimeMs ||
    !validPercent s.cpuPercent || !validPercent s.systemCpuPercent ||
    !validPercent s.criticalCorePercent || !validCoreUsage s.effectiveCoreUsage ||
    !validPercent s.dominantThreadSharePercent || !validPercent s.processGpuPercent ||
    !validPercent s.gpuPercent || !validPercent s.graphicsEnginePercent ||
    !validPercent s.computeEnginePercent || !validPercent s.copyEnginePercent ||
    !validPressure s.presentQueuePressure || !validPressure s.pagingPressure ||
    !validPressure s.ioPressure || !validPressure s.thermalPowerPressure ||
    !validPressure s.renderingPressure || !validPressure s.animationPressure ||
    !validPressure s.physicsPressure || !validPressure s.ragdollPressure ||
    !validPressure s.particlePressure || !validPressure s.gorePressure ||
    !validPressure s.streamingPressure

/-- The checks on threads and processors. -/
def invalidCpu (s : AdaptiveSample F) : Bool :=
  present (fun n => decide (1000000 < n)) s.activeCpuThreads ||
    present (· == 0) s.affinityLogicalProcessors || present (· == 0) s.affinityPhysicalCores ||
    present (· == 0) s.systemLogicalProcessors ||
    presentBoth (fun p l => decide (l < p)) s.affinityPhysicalCores s.affinityLogicalProcessors ||
    presentBoth (fun a n => decide (n < a)) s.affinityLogicalProcessors
      s.systemLogicalProcessors ||
    presentBoth (fun u l => lt (add (ofInt (l : ℕ)) (ofRat (5 / 10))) u) s.effectiveCoreUsage
      s.affinityLogicalProcessors

/-- A reading that is there but fails its check. -/
def presentBad (check : Option F → Bool) (v : Option F) : Bool := v.isSome && !check v

/-- The checks on memory. -/
def invalidMemory (s : AdaptiveSample F) : Bool :=
  presentBad finiteNonnegative s.vramUsedBytes || presentBad finitePositive s.vramBudgetBytes ||
    presentBad finiteNonnegative s.ramUsedBytes || presentBad finitePositive s.ramBudgetBytes ||
    presentBad finiteNonnegative s.commitUsedBytes ||
    presentBad finitePositive s.commitBudgetBytes ||
    presentBad finiteNonnegative s.processPrivateBytes

/-- The checks on the secondary frame readings. -/
def invalidSecondary (s : AdaptiveSample F) : Bool :=
  presentBad finitePositive s.averageFps || presentBad finitePositive s.medianFrameTimeMs ||
    presentBad finitePositive s.p95FrameTimeMs || presentBad finitePositive s.p99FrameTimeMs ||
    presentBad finitePositive s.sustainedOnePercentLowFps ||
    presentBad finitePositive s.onePercentLowFps ||
    presentBad finitePositive s.pointOnePercentLowFps ||
    presentBad finiteNonnegative s.frameTimeVariance

/-- The checks on the controller's own quality state. -/
def invalidQuality (policy : AdaptivePolicy F) (s : AdaptiveSample F) : Bool :=
  present (fun q => !isFinite q || lt q (ofRat 0) || lt (ofRat 100) q) s.qualityScore ||
    (s.minimumQualityReached && present
      (lt (add (ofInt policy.minimumQuality) (ofRat (5 / 10)))) s.qualityScore)

/-- A signal that means nothing without a bound adapter is there. -/
def adapterBoundSignals (s : AdaptiveSample F) : Bool :=
  s.processGpuPercent.isSome || s.gpuPercent.isSome || s.graphicsEnginePercent.isSome ||
    s.computeEnginePercent.isSome || s.copyEnginePercent.isSome || s.vramUsedBytes.isSome ||
    s.vramBudgetBytes.isSome

/-- Usable, but degraded. -/
def degradedSample (s : AdaptiveSample F) : Bool :=
  s.sampleLoss || s.duplicateSample || !finitePositive s.p95FrameTimeMs ||
    (adapterBoundSignals s && s.adapterLuid.isNone) ||
    (finitePositive s.p95FrameTimeMs && finitePositive s.p99FrameTimeMs &&
      presentBoth lt s.p99FrameTimeMs s.p95FrameTimeMs) ||
    presentBoth (fun fps frameTime =>
      let implied := div (ofRat 1000) fps
      lt (DoubleOps.max (ofRat 2) (mul implied (ofRat (30 / 100))))
        (DoubleOps.abs (sub implied frameTime))) s.fps s.frameTimeMs

/-- A boundary flag is set. -/
def boundaryFlagged (s : AdaptiveSample F) : Bool :=
  s.discontinuity || s.sessionChanged || s.mapChanged

/-- `validate_adaptive_sample`. -/
def validateAdaptiveSample (policy : AdaptivePolicy F) (sample : AdaptiveSample F) (nowNs : ℕ) :
    AdaptiveDataQualityReport F :=
  let age := nowNs - sample.timestampNs
  let refused (reason : String) : AdaptiveDataQualityReport F :=
    ⟨.notAvailable, ofRat 0, reason, age⟩
  if invalidPolicy policy then ⟨.notAvailable, ofRat 0, "invalid_controller_policy", 0⟩
  else if invalidSource sample nowNs then
    ⟨.notAvailable, ofRat 0, "invalid_source_identity_or_time", 0⟩
  else if policy.freshnessLimitNs < age then refused "stale_telemetry"
  else if boundaryFlagged sample then
    ⟨.degraded, ofRat (35 / 100), "telemetry_boundary_requires_stabilization", age⟩
  else if invalidPrimary sample then refused "invalid_or_missing_primary_telemetry"
  else if invalidCpu sample then refused "invalid_cpu_parallelism_telemetry"
  else if invalidMemory sample then refused "invalid_memory_telemetry"
  else if invalidSecondary sample then refused "invalid_secondary_telemetry"
  else if invalidQuality policy sample then refused "invalid_or_contradictory_quality_state"
  else if degradedSample sample then
    ⟨.degraded, ofRat (55 / 100), "usable_but_degraded_or_incompletely_bound_telemetry", age⟩
  else ⟨.valid, ofRat 1, "validated_fresh_telemetry", age⟩

/-- A sample that is not refused comes under a valid policy, from a known process, at a time
that is not in the future. -/
theorem validate_available {policy : AdaptivePolicy F} {sample : AdaptiveSample F} {nowNs : ℕ}
    (h : (validateAdaptiveSample policy sample nowNs).quality ≠ .notAvailable) :
    validTargetFps policy.targetFps = true ∧ invalidSource sample nowNs = false := by
  unfold validateAdaptiveSample at h
  split at h
  · exact absurd rfl h
  · rename_i hpolicy
    split at h
    · exact absurd rfl h
    · rename_i hsource
      refine ⟨?_, Bool.eq_false_iff.mpr hsource⟩
      by_contra hfps
      apply hpolicy
      simp [invalidPolicy, Bool.eq_false_iff.mpr hfps]

end Kf2Optimizer.Optimizer
