/-
# The adaptive governor

`AdaptiveGovernor::evaluate` (`adaptive_governor.cpp`) takes a sample every half second and
decides what state the game is in and what, if anything, should be done about it.  The governor
keeps a window of smoothed frame times, the smoothed resource pressures, and three pieces of
hysteresis: the active pressure, the confirmation of a low percentile, and the held bottleneck.

`evaluate` is a fixed cascade: the freeze check, the quality epoch, the availability of the data,
the boundary, three holds, the duplicate check, and only then the analysis (`analyse`).  The model
keeps that order.  Everything above the analysis touches only the bookkeeping fields
(`Governor.bind`), which is what makes the results about it short.

The target registry (`find_adaptive_setting`) is a table of constants; it is a parameter here.
-/
import Kf2Optimizer.Optimizer.Pressure
import Kf2Optimizer.Optimizer.Sample

set_option linter.unusedSectionVars false

namespace Kf2Optimizer.Optimizer

open DoubleOps

variable {F : Type} [DoubleOps F]

/-! ## 1. Reports and decisions -/

/-- `AdaptiveBottleneckReport`.  A signal array of eight with its count is a list of at most
eight. -/
structure AdaptiveBottleneckReport (F : Type) where
  type : AdaptiveBottleneck
  confidence : F
  supportingSignals : List String
  contradictingSignals : List String
  dataQuality : AdaptiveDataQuality
  sampleAgeNs : ℕ

/-- `AdaptiveBottleneckReport{}`. -/
def AdaptiveBottleneckReport.init : AdaptiveBottleneckReport F :=
  ⟨.unknown, ofRat 0, [], [], .notAvailable, 0⟩

/-- `AdaptiveCpuReport`. -/
structure AdaptiveCpuReport (F : Type) where
  workload : AdaptiveCpuWorkload
  effectiveCoreUsage : Option F
  criticalThreadPercent : Option F
  dominantThreadSharePercent : Option F
  activeThreads : Option ℕ
  affinityLogicalProcessors : Option ℕ
  affinityPhysicalCores : Option ℕ
  affinityLimited : Bool

/-- `AdaptiveDecision`. -/
structure AdaptiveDecision (F : Type) where
  state : AdaptiveControllerState
  disposition : AdaptiveDisposition
  stabilityState : AdaptiveStabilityState
  data : AdaptiveDataQualityReport F
  pressure : AdaptivePressure
  bottleneck : AdaptiveBottleneckReport F
  cpu : AdaptiveCpuReport F
  resources : ResourcePressureSnapshot F
  selectedSetting : String
  reason : String
  oldValue : Option F
  proposedValue : Option F
  effectiveValue : Option F
  predictedFrameTimeMs : Option F
  bands : AdaptiveStabilityBands F
  predictionConfidence : F
  dropRisk : F
  qualityScore : F
  headroom : F
  currentFramePressure : Bool
  currentResourcePressure : Bool
  qualityRecoveryEligible : Bool
  rollbackAvailable : Bool
  targetUnreachable : Bool
  watchdogFrozen : Bool
  restoreGeneration : ℕ
  settingsGeneration : ℕ

/-! ## 2. Frame signals -/

/-- `FrameSignalLevel`. -/
inductive FrameSignalLevel
  | healthy | warning | corrective | emergency
deriving DecidableEq, Repr

/-- The `unsigned int` behind a level. -/
def FrameSignalLevel.rank : FrameSignalLevel → ℕ
  | .healthy => 0
  | .warning => 1
  | .corrective => 2
  | .emergency => 3

/-- `maximum`. -/
def FrameSignalLevel.maximum (left right : FrameSignalLevel) : FrameSignalLevel :=
  if right.rank ≤ left.rank then left else right

/-- `at_least`. -/
def FrameSignalLevel.atLeast (value threshold : FrameSignalLevel) : Bool :=
  decide (threshold.rank ≤ value.rank)

/-- `level_for_fps`. -/
def levelForFps (fps : F) (bands : AdaptiveStabilityBands F) : FrameSignalLevel :=
  let bound (frameTime : F) : F := add (div (ofRat 1000) frameTime) (ofRat (1 / 1000000))
  if !isFinite fps || le fps (ofRat 0) then .healthy
  else if le fps (bound bands.criticalFrameTimeMs) then .emergency
  else if le fps (bound bands.correctiveFrameTimeMs) then .corrective
  else if le fps (bound bands.warningFrameTimeMs) then .warning
  else .healthy

/-- `level_for_frame_time`. -/
def levelForFrameTime (frameTimeMs : F) (bands : AdaptiveStabilityBands F) : FrameSignalLevel :=
  if !isFinite frameTimeMs || le frameTimeMs (ofRat 0) then .healthy
  else if le bands.criticalFrameTimeMs frameTimeMs then .emergency
  else if le bands.correctiveFrameTimeMs frameTimeMs then .corrective
  else if le bands.warningFrameTimeMs frameTimeMs then .warning
  else .healthy

/-- `level_for_tail`. -/
def levelForTail (p95FrameTimeMs targetFrameTimeMs : F) : FrameSignalLevel :=
  let ratio := div p95FrameTimeMs targetFrameTimeMs
  if !isFinite p95FrameTimeMs || le p95FrameTimeMs (ofRat 0) || !isFinite targetFrameTimeMs ||
      le targetFrameTimeMs (ofRat 0) then .healthy
  else if le (ofRat (130 / 100)) ratio then .emergency
  else if le (ofRat (115 / 100)) ratio then .corrective
  else if le (ofRat (106 / 100)) ratio then .warning
  else .healthy

/-- `level_for_stutters`. -/
def levelForStutters (count : ℕ) : FrameSignalLevel :=
  if 6 ≤ count then .emergency
  else if 3 ≤ count then .corrective
  else if 1 ≤ count then .warning
  else .healthy

/-- `correction_level`. -/
def correctionLevel (live sustained tail : FrameSignalLevel)
    (emergencyEnabled catastrophicLiveDrop : Bool) : FrameSignalLevel :=
  if emergencyEnabled && (catastrophicLiveDrop ||
      (live.atLeast .emergency && (sustained.atLeast .warning || tail.atLeast .warning))) then
    .emergency
  else if (live.atLeast .corrective && (sustained.atLeast .corrective || tail.atLeast .corrective)) ||
      (tail.atLeast .corrective && (live.atLeast .warning || sustained.atLeast .warning)) then
    .corrective
  else .healthy

/-- `state_for`. -/
def stateFor : AdaptivePressure → AdaptiveControllerState
  | .observing => .observing
  | .healthy => .stable
  | .warning => .warning
  | .intervention => .intervention
  | .emergency => .emergency

/-- `stability_state_for`. -/
def stabilityStateFor : AdaptivePressure → AdaptiveStabilityState
  | .observing => .hold
  | .healthy => .stable
  | .warning => .watch
  | .intervention => .correcting
  | .emergency => .correcting

/-! ## 3. Candidates and locks -/

/-- `candidate_setting`. -/
def candidateSetting : AdaptiveBottleneck → String
  | .gpu => "FarParticleLOD"
  | .vram => "TextureMemoryBudget"
  | .ram | .paging => "ParticleMemoryBudget"
  | .cpu => "FarAnimationUpdateRate"
  | .rendering => "ShadowQuality"
  | .animation => "FarAnimationLOD"
  | .physics => "FarCosmeticPhysics"
  | .ragdoll => "MaxActiveRagdolls"
  | .particles => "GlobalParticleQuality"
  | .gore => "GoreQuality"
  | .streaming | .ioPressure => "EnemyTextureStreamingPriority"
  | .thermalPower | .mixed | .unknown => ""

/-- `candidate_capability`. -/
def candidateCapability (bottleneck : AdaptiveBottleneck) (capabilities : AdaptiveCapabilities) :
    AdaptiveCapabilityState :=
  match bottleneck with
  | .physics | .ragdoll => capabilities.corpseControl
  | .particles => capabilities.particleControl
  | .gore => capabilities.goreControl
  | .cpu | .gpu | .vram | .ram | .paging | .rendering | .animation | .streaming | .ioPressure =>
    .restartRequired
  | .thermalPower | .mixed | .unknown => .unavailable

/-- `manual_lock_blocks`: the first lock of the setting decides. -/
def manualLockBlocks (setting : String) (locks : List AdaptiveManualLock) : Bool :=
  match locks.find? (·.setting == setting) with
  | some lock => lock.state != .automatic
  | none => false

/-- The facts of an `AdaptiveSettingRecord` that `evaluate` asks for: `rollback_possible`, and
`adaptive_setting_active_ready` as a function of the capability. -/
structure AdaptiveSettingRecord where
  rollbackPossible : Bool
  activeReady : AdaptiveCapabilityState → Bool

/-! ## 4. CPU workload and bottleneck -/

/-- `analyze_cpu_parallelism`. -/
def analyzeCpuParallelism (sample : AdaptiveSample F) : AdaptiveCpuReport F :=
  let effective := orZero sample.effectiveCoreUsage
  let critical := orZero sample.criticalCorePercent
  let dominantShare := orZero sample.dominantThreadSharePercent
  let logicalCapacity : F := ofInt (sample.affinityLogicalProcessors.getD 0 : ℕ)
  let capacityRatio :=
    if lt (ofRat 0) logicalCapacity then div effective logicalCapacity else ofRat 0
  let ceiling :=
    if lt (ofRat 0) logicalCapacity then
      DoubleOps.max (ofRat 4) (mul logicalCapacity (ofRat (50 / 100)))
    else ofRat 4
  { effectiveCoreUsage := sample.effectiveCoreUsage
    criticalThreadPercent := sample.criticalCorePercent
    dominantThreadSharePercent := sample.dominantThreadSharePercent
    activeThreads := sample.activeCpuThreads
    affinityLogicalProcessors := sample.affinityLogicalProcessors
    affinityPhysicalCores := sample.affinityPhysicalCores
    affinityLimited := presentBoth (fun a n => decide (a < n)) sample.affinityLogicalProcessors
      sample.systemLogicalProcessors
    workload :=
      if sample.effectiveCoreUsage.isNone && sample.criticalCorePercent.isNone &&
          sample.activeCpuThreads.isNone then .unknown
      else if le (ofRat 70) critical && le (ofRat 35) dominantShare && le effective ceiling then
        .mainThreadDominant
      else if le (ofRat 2) effective && le (ofRat (65 / 100)) capacityRatio then .broadlyParallel
      else if le (ofRat 1) effective || decide (3 ≤ sample.activeCpuThreads.getD 0) then
        .partiallyParallel
      else .idleOrFrameLimited }

/-- `add_signal`. -/
def addSignal (signals : List String) (value : String) : List String :=
  if signals.length < 8 then signals ++ [value] else signals

/-- `ratio`. -/
def ratio (used budget : Option F) : F :=
  match used, budget with
  | some u, some b =>
    if !finiteNonnegative (some u) || !finitePositive (some b) then ofRat 0
    else clamp (div u b) (ofRat 0) (ofRat 1)
  | _, _ => ofRat 0

/-- The readings `classify_bottleneck` compares, computed once. -/
structure BottleneckSignals (F : Type) where
  vramRatio : F
  gpuHigh : Bool
  processCpuHigh : Bool
  criticalThreadHigh : Bool
  mainThreadBound : Bool
  parallelCpuHigh : Bool
  sharedCpuHigh : Bool
  cpuHigh : Bool
  verifiedOverdrawHigh : Bool

/-- The first part of `classify_bottleneck`. -/
def bottleneckSignals (sample : AdaptiveSample F) (cpu : AdaptiveCpuReport F)
    (resources : ResourcePressureSnapshot F) : BottleneckSignals F :=
  let currentGpuAttribution := resources.sharedGpuPressure || sample.processGpuPercent.isNone ||
    le (ofRat 89) (orZero sample.processGpuPercent)
  let processCpuHigh := present (le (ofRat 85)) sample.cpuPercent
  let criticalThreadHigh := present (le (ofRat 90)) sample.criticalCorePercent
  let mainThreadBound := cpu.workload == .mainThreadDominant &&
    le (ofRat 70) (orZero sample.criticalCorePercent) &&
    le (ofRat 35) (orZero sample.dominantThreadSharePercent)
  let affinityCapacity : F := ofInt (sample.affinityLogicalProcessors.getD 0 : ℕ)
  let parallelCpuHigh := lt (ofRat 0) affinityCapacity &&
    le (DoubleOps.max (ofRat 2) (mul affinityCapacity (ofRat (70 / 100))))
      (orZero sample.effectiveCoreUsage)
  let sharedCpuHigh := resources.primary == .cpu && resources.sharedCpuPressure &&
    le (ofRat 85) (orZero sample.systemCpuPercent)
  { vramRatio := ratio sample.vramUsedBytes sample.vramBudgetBytes
    gpuHigh := le (ofRat (70 / 100)) resources.gpu.smoothed && resources.primary == .gpu &&
      currentGpuAttribution
    processCpuHigh := processCpuHigh
    criticalThreadHigh := criticalThreadHigh
    mainThreadBound := mainThreadBound
    parallelCpuHigh := parallelCpuHigh
    sharedCpuHigh := sharedCpuHigh
    cpuHigh := processCpuHigh || criticalThreadHigh || mainThreadBound || parallelCpuHigh ||
      sharedCpuHigh
    verifiedOverdrawHigh := sample.gameplayContextFresh &&
      le (ofRat (50 / 100)) (orZero sample.renderingPressure) }

/-- The graphics-engine counter, where a GPU classification mentions it. -/
def graphicsEngineSignal (sample : AdaptiveSample F) : List String :=
  if sample.graphicsEnginePercent.isSome then ["graphics_engine_counter"] else []

/-- The signals of a CPU classification, before the contradicting ones. -/
def cpuSupporting (sample : AdaptiveSample F) (cpu : AdaptiveCpuReport F)
    (b : BottleneckSignals F) : List String :=
  [if b.mainThreadBound then "main_thread_dominant_parallelism_evidence"
    else if b.parallelCpuHigh then "broad_parallel_cpu_capacity_pressure"
    else if b.criticalThreadHigh then "critical_thread_pressure_with_gpu_reserve"
    else if b.sharedCpuHigh then "shared_cpu_pressure_with_frame_impact"
    else "process_cpu_pressure_with_gpu_reserve"] ++
  (if sample.effectiveCoreUsage.isSome then ["effective_core_usage_measured"] else []) ++
  (if sample.activeCpuThreads.isSome then ["active_cpu_threads_measured"] else []) ++
  (if cpu.affinityLimited then ["process_affinity_subset_observed"] else []) ++
  (if b.processCpuHigh && b.criticalThreadHigh then
    ["process_cpu_signal_corrobates_critical_thread"] else [])

/-- The contradicting signal of a CPU classification. -/
def cpuContradicting (sample : AdaptiveSample F) (b : BottleneckSignals F) : List String :=
  if b.processCpuHigh && b.criticalThreadHigh then []
  else if sample.criticalCorePercent.isNone then ["critical_core_signal_unavailable"]
  else if !b.criticalThreadHigh then ["critical_core_signal_does_not_corrobate"]
  else []

/-- The cascade of `classify_bottleneck`: the type, its confidence, the supporting and the
contradicting signals. -/
def bottleneckVerdict (sample : AdaptiveSample F) (cpu : AdaptiveCpuReport F)
    (resources : ResourcePressureSnapshot F) (b : BottleneckSignals F) :
    AdaptiveBottleneck × F × List String × List String :=
  let atLeast (bound : ℚ) (v : Option F) : Bool := le (ofRat bound) (orZero v)
  let below (bound : ℚ) (v : Option F) : Bool := lt (v.getD (ofRat 100)) (ofRat bound)
  if present (le (ofRat (80 / 100))) sample.thermalPowerPressure then
    (.thermalPower, ofRat (70 / 100), ["verified_thermal_or_power_pressure"], [])
  else if resources.primary == .vram && le (ofRat (70 / 100)) resources.vram.smoothed then
    (.vram, DoubleOps.max (ofRat (70 / 100)) resources.vram.confidence,
      ["sustained_vram_reserve_pressure"], [])
  else if le (ofRat (95 / 100)) b.vramRatio &&
      (atLeast (50 / 100) sample.streamingPressure || atLeast 70 sample.copyEnginePercent) then
    (.vram, ofRat (78 / 100), ["vram_budget_and_transfer_pressure"], [])
  else if resources.primary == .ram && le (ofRat (70 / 100)) resources.ram.smoothed &&
      atLeast (35 / 100) sample.pagingPressure then
    (.paging, ofRat (78 / 100), ["ram_and_paging_pressure"], [])
  else if resources.primary == .ram && le (ofRat (70 / 100)) resources.ram.smoothed then
    (.ram, DoubleOps.max (ofRat (64 / 100)) resources.ram.confidence,
      ["physical_ram_budget_pressure"], [])
  else if b.gpuHigh && b.cpuHigh then
    (.mixed, ofRat (62 / 100), ["simultaneous_cpu_gpu_pressure"], [])
  else if b.verifiedOverdrawHigh && b.gpuHigh then
    (.rendering, ofRat (74 / 100),
      ["verified_visible_overdraw_with_gpu_pressure"] ++ graphicsEngineSignal sample, [])
  else if b.gpuHigh && !b.cpuHigh then
    (.gpu, if resources.sharedGpuPressure then ofRat (72 / 100) else ofRat (68 / 100),
      [if resources.sharedGpuPressure then "shared_gpu_pressure_with_frame_impact"
        else "gpu_pressure_with_cpu_reserve"] ++ graphicsEngineSignal sample, [])
  else if b.cpuHigh && below 85 sample.gpuPercent then
    (.cpu, if b.mainThreadBound then ofRat (88 / 100)
      else if b.parallelCpuHigh then ofRat (84 / 100)
      else if b.criticalThreadHigh then ofRat (82 / 100)
      else if b.sharedCpuHigh then ofRat (72 / 100) else ofRat (48 / 100),
      cpuSupporting sample cpu b, cpuContradicting sample b)
  else if atLeast (70 / 100) sample.ioPressure && below 75 sample.cpuPercent &&
      below 75 sample.gpuPercent then
    (.ioPressure, ofRat (65 / 100), ["io_pressure_with_cpu_gpu_reserve"], [])
  else if atLeast (70 / 100) sample.streamingPressure then
    (.streaming, ofRat (64 / 100), ["streaming_pressure"], [])
  else if sample.gameplayContextFresh && atLeast (80 / 100) sample.particlePressure then
    (.particles, ofRat (64 / 100), ["verified_particle_pressure_context"], [])
  else if sample.gameplayContextFresh && atLeast (80 / 100) sample.ragdollPressure then
    (.ragdoll, ofRat (64 / 100), ["verified_ragdoll_pressure_context"], [])
  else if sample.gameplayContextFresh && atLeast (80 / 100) sample.physicsPressure then
    (.physics, ofRat (62 / 100), ["verified_physics_pressure_context"], [])
  else if sample.gameplayContextFresh && atLeast (80 / 100) sample.animationPressure then
    (.animation, ofRat (60 / 100), ["verified_animation_pressure_context"], [])
  else if sample.gameplayContextFresh && atLeast (80 / 100) sample.gorePressure then
    (.gore, ofRat (60 / 100), ["verified_gore_pressure_context"], [])
  else if sample.gameplayContextFresh && atLeast (80 / 100) sample.renderingPressure then
    (.rendering, ofRat (58 / 100), ["rendering_pressure_context"], [])
  else (.unknown, ofRat (25 / 100), [], ["no_single_cause_proven"])

/-- `classify_bottleneck`. -/
def classifyBottleneck (sample : AdaptiveSample F) (data : AdaptiveDataQualityReport F)
    (cpu : AdaptiveCpuReport F) (pressure : AdaptivePressure)
    (resources : ResourcePressureSnapshot F) : AdaptiveBottleneckReport F :=
  let report : AdaptiveBottleneckReport F :=
    { (AdaptiveBottleneckReport.init : AdaptiveBottleneckReport F) with
      dataQuality := data.quality
      sampleAgeNs := data.sampleAgeNs }
  if data.quality == .notAvailable || pressure == .observing || pressure == .healthy then report
  else
    let (type, confidence, supporting, contradicting) :=
      bottleneckVerdict sample cpu resources (bottleneckSignals sample cpu resources)
    { report with
      type := type
      confidence := clamp (mul confidence data.confidenceFactor) (ofRat 0) (ofRat 1)
      supportingSignals := supporting.foldl addSignal ["sustained_frame_time_pressure"]
      contradictingSignals := contradicting.foldl addSignal [] }

/-! ## 5. The state of the governor -/

/-- `AdaptiveGovernor::HistorySample`. -/
structure HistorySample (F : Type) where
  timestampNs : ℕ
  frameTimeMs : F
  p95FrameTimeMs : F

/-- `AdaptiveGovernor`. -/
structure Governor (F : Type) where
  history : Fin 128 → HistorySample F
  historySize : ℕ
  historyNext : Fin 128
  smoothedFrameTimeMs : Option F
  smoothedP95Ms : Option F
  resourcePressureEstimator : ResourcePressureEstimator F
  activePressure : AdaptivePressure
  candidatePressure : AdaptivePressure
  candidateSinceNs : ℕ
  lowPercentilePressureSinceNs : ℕ
  lastDirectionChangeNs : ℕ
  lastEvaluationNs : ℕ
  lastFrameTimestampNs : ℕ
  identityPid : ℕ
  identityStartId : ℕ
  sessionGeneration : ℕ
  mapGeneration : ℕ
  frameGeneration : ℕ
  frameStreamId : ℕ
  restoreGeneration : ℕ
  settingsGeneration : ℕ
  stabilizationUntilNs : ℕ
  targetFps : ℤ
  heldBottleneck : AdaptiveBottleneck
  bottleneckHoldUntilNs : ℕ
  qualityAppliedNotBeforeNs : ℕ
  directionChanges : ℕ
  frozen : Bool

/-- `history_ = {}`. -/
def emptyHistory : Fin 128 → HistorySample F := fun _ => ⟨0, ofRat 0, ofRat 0⟩

/-- A new governor. -/
def Governor.init : Governor F where
  history := emptyHistory
  historySize := 0
  historyNext := 0
  smoothedFrameTimeMs := none
  smoothedP95Ms := none
  resourcePressureEstimator := .init
  activePressure := .observing
  candidatePressure := .observing
  candidateSinceNs := 0
  lowPercentilePressureSinceNs := 0
  lastDirectionChangeNs := 0
  lastEvaluationNs := 0
  lastFrameTimestampNs := 0
  identityPid := 0
  identityStartId := 0
  sessionGeneration := 0
  mapGeneration := 0
  frameGeneration := 0
  frameStreamId := 0
  restoreGeneration := 0
  settingsGeneration := 0
  stabilizationUntilNs := 0
  targetFps := 0
  heldBottleneck := .unknown
  bottleneckHoldUntilNs := 0
  qualityAppliedNotBeforeNs := 0
  directionChanges := 0
  frozen := false

/-! ## 6. The updates behind `evaluate` -/

/-- `AdaptiveGovernor::FrameAnalysis`. -/
structure FrameAnalysis (F : Type) where
  frameTimeMs : F
  p95FrameTimeMs : F
  predictedFrameTimeMs : F
  predictionConfidence : F

/-- The smoothing factor of a policy. -/
def smoothingFactor (policy : AdaptivePolicy F) : F :=
  match policy.aggressiveness with
  | .conservative => ofRat (12 / 100)
  | .aggressive => ofRat (30 / 100)
  | .balanced => ofRat (20 / 100)

/-- The prediction horizon of a policy. -/
def predictionHorizon (policy : AdaptivePolicy F) : F :=
  match policy.aggressiveness with
  | .aggressive => ofRat (12 / 10)
  | .conservative => ofRat (5 / 10)
  | .balanced => ofRat (8 / 10)

/-- The lambda `smooth`. -/
def smoothed (alpha : F) (state : Option F) (value : F) : F :=
  match state with
  | some s => add s (mul alpha (sub value s))
  | none => value

namespace Governor

/-- `reset_for_boundary`. -/
def resetForBoundary (g : Governor F) (nowNs : ℕ) (telemetryTransition : Bool) : Governor F :=
  { g with
    lastFrameTimestampNs := 0
    historySize := 0
    historyNext := 0
    smoothedFrameTimeMs := none
    smoothedP95Ms := none
    resourcePressureEstimator := .init
    activePressure := .observing
    candidatePressure := .observing
    candidateSinceNs := nowNs
    lowPercentilePressureSinceNs := 0
    heldBottleneck := .unknown
    bottleneckHoldUntilNs := 0
    directionChanges := 0
    restoreGeneration := u64 (g.restoreGeneration + 1)
    stabilizationUntilNs :=
      if telemetryTransition then
        if 2 ^ 64 - 1 - 3000000000 < nowNs then 2 ^ 64 - 1 else nowNs + 3000000000
      else g.stabilizationUntilNs }

/-- The first half of `update_frame_analysis`: the smoothed values, and the history they enter. -/
def recordFrame (g : Governor F) (policy : AdaptivePolicy F) (sample : AdaptiveSample F) :
    Governor F :=
  let alpha := smoothingFactor policy
  let frameTime := smoothed alpha g.smoothedFrameTimeMs (orZero sample.frameTimeMs)
  let p95 := smoothed alpha g.smoothedP95Ms
    (sample.p95FrameTimeMs.getD (orZero sample.frameTimeMs))
  { g with
    smoothedFrameTimeMs := some frameTime
    smoothedP95Ms := some p95
    history := Function.update g.history g.historyNext ⟨sample.timestampNs, frameTime, p95⟩
    historyNext := g.historyNext + 1
    historySize := Nat.min (g.historySize + 1) 128 }

/-- The second half of `update_frame_analysis`: the prediction over the recorded history. -/
def predictFrame (g : Governor F) (policy : AdaptivePolicy F) (confidenceFactor : F) :
    FrameAnalysis F :=
  let frameTime := orZero g.smoothedFrameTimeMs
  let unpredicted : FrameAnalysis F := ⟨frameTime, orZero g.smoothedP95Ms, frameTime, ofRat 0⟩
  let oldest := if g.historySize < 128 then 0 else g.historyNext
  let first := g.history oldest
  let last := g.history (g.historyNext - 1)
  if g.historySize < 4 then unpredicted
  else if last.timestampNs ≤ first.timestampNs then unpredicted
  else
    let seconds : F := div (ofInt (last.timestampNs - first.timestampNs)) (ofRat 1000000000)
    let slope := div (sub last.frameTimeMs first.frameTimeMs)
      (DoubleOps.max (ofRat (1 / 1000)) seconds)
    { unpredicted with
      predictedFrameTimeMs :=
        DoubleOps.max (ofRat (1 / 10)) (add frameTime (mul slope (predictionHorizon policy)))
      predictionConfidence := DoubleOps.min confidenceFactor
        (DoubleOps.min (ofRat 1) (div (ofInt g.historySize) (ofRat 24))) }

/-- `update_frame_analysis`. -/
def updateFrameAnalysis (g : Governor F) (policy : AdaptivePolicy F) (sample : AdaptiveSample F)
    (confidenceFactor : F) : Governor F × FrameAnalysis F :=
  let g := g.recordFrame policy sample
  (g, g.predictFrame policy confidenceFactor)

/-- The dwell time of `update_pressure_hysteresis`. -/
def dwellNs (g : Governor F) (desired : AdaptivePressure) (policy : AdaptivePolicy F)
    (catastrophicLiveDrop : Bool) : ℕ :=
  let dwell :=
    match desired with
    | .healthy => 6000000000 + Nat.min g.directionChanges 8 * 1000000000
    | .warning => 800000000
    | .intervention => 600000000
    | _ => if catastrophicLiveDrop then 200000000 else 400000000
  match policy.aggressiveness with
  | .conservative => dwell + dwell / 2
  | .aggressive => dwell - dwell / 4
  | .balanced => dwell

/-- `update_pressure_hysteresis`. -/
def updatePressureHysteresis (g : Governor F) (desired : AdaptivePressure)
    (policy : AdaptivePolicy F) (catastrophicLiveDrop : Bool) (nowNs : ℕ) : Governor F :=
  let g := if desired ≠ g.candidatePressure then
      { g with candidatePressure := desired, candidateSinceNs := nowNs }
    else g
  if desired ≠ g.activePressure ∧ g.candidateSinceNs ≤ nowNs ∧
      g.dwellNs desired policy catastrophicLiveDrop ≤ nowNs - g.candidateSinceNs then
    let directionChanged := (desired == .healthy) != (g.activePressure == .healthy)
    { g with
      directionChanges :=
        if directionChanged then Nat.min (g.directionChanges + 1) 32 else g.directionChanges
      lastDirectionChangeNs := if directionChanged then nowNs else g.lastDirectionChangeNs
      activePressure := desired }
  else g

/-- `update_bottleneck_hysteresis`. -/
def updateBottleneckHysteresis (g : Governor F) (decision : AdaptiveDecision F)
    (sample : AdaptiveSample F) (nowNs : ℕ) : Governor F × AdaptiveDecision F :=
  let b := decision.bottleneck
  if b.type == .cpu && le (ofRat (70 / 100)) b.confidence && decision.data.quality == .valid then
    ({ g with heldBottleneck := .cpu, bottleneckHoldUntilNs := u64 (nowNs + 2000000000) }, decision)
  else if b.type == .unknown && g.heldBottleneck == .cpu && decision.data.quality == .valid &&
      g.activePressure != .observing && g.activePressure != .healthy &&
      decide (nowNs ≤ g.bottleneckHoldUntilNs) &&
      (le (ofRat 55) (orZero sample.criticalCorePercent) ||
        decision.cpu.workload == .mainThreadDominant) &&
      lt (sample.gpuPercent.getD (ofRat 100)) (ofRat 85) then
    (g, { decision with bottleneck := { b with
      type := .cpu
      confidence := ofRat (68 / 100)
      contradictingSignals := []
      supportingSignals := addSignal b.supportingSignals "critical_thread_hysteresis_hold" } })
  else if b.type != .unknown || decide (g.bottleneckHoldUntilNs < nowNs) then
    ({ g with heldBottleneck := .unknown, bottleneckHoldUntilNs := 0 }, decision)
  else (g, decision)

/-- `notify_quality_applied`. -/
def notifyQualityApplied (g : Governor F) (appliedNs : ℕ) : Governor F :=
  if appliedNs = 0 ∨ appliedNs ≤ g.qualityAppliedNotBeforeNs then g
  else
    { g with
      qualityAppliedNotBeforeNs := appliedNs
      lastFrameTimestampNs := 0
      history := emptyHistory
      historySize := 0
      historyNext := 0
      smoothedFrameTimeMs := none
      smoothedP95Ms := none
      lowPercentilePressureSinceNs := 0
      activePressure := .observing
      candidatePressure := .observing
      candidateSinceNs := appliedNs
      lastDirectionChangeNs := 0
      directionChanges := 0 }

end Governor

end Kf2Optimizer.Optimizer
