/-
# One evaluation

`AdaptiveGovernor::evaluate` and `reset`.

The cascade of `evaluate` is cut where the source returns: `bind` is the boundary bookkeeping,
`analyse` what runs once a sample has passed the duplicate check, `conclude` the choice of a
setting, which reads the finished decision and changes no state.
-/
import Kf2Optimizer.Optimizer.Governor
import Kf2Optimizer.Lib.Machine

set_option linter.unusedSectionVars false

namespace Kf2Optimizer.Optimizer

open DoubleOps StepMachine

variable {F : Type} [DoubleOps F]

/-! ## 1. The decision before and after the analysis -/

namespace Governor

/-- The decision as `evaluate` has it when it reaches the freeze check. -/
def baseDecision (g : Governor F) (policy : AdaptivePolicy F) (sample : AdaptiveSample F)
    (nowNs : ℕ) : AdaptiveDecision F where
  state := .disabled
  disposition := .none
  stabilityState := .hold
  data := validateAdaptiveSample policy sample nowNs
  pressure := .observing
  bottleneck := .init
  cpu := analyzeCpuParallelism sample
  resources := .init
  selectedSetting := ""
  reason := "disabled"
  oldValue := none
  proposedValue := none
  effectiveValue := none
  predictedFrameTimeMs := none
  bands := adaptiveStabilityBands policy.targetFps
  predictionConfidence := ofRat 0
  dropRisk := ofRat 0
  qualityScore := ofRat 100
  headroom := ofRat 0
  currentFramePressure := false
  currentResourcePressure := false
  qualityRecoveryEligible := false
  rollbackAvailable := false
  targetUnreachable := false
  watchdogFrozen := false
  restoreGeneration := g.restoreGeneration
  settingsGeneration := g.settingsGeneration

end Governor

/-- An observing hold with a reason. -/
def AdaptiveDecision.observe (d : AdaptiveDecision F) (reason : String) : AdaptiveDecision F :=
  { d with state := .observing, disposition := .hold, reason := reason }

/-- A hold with a reason, in the state the decision has. -/
def AdaptiveDecision.hold (d : AdaptiveDecision F) (reason : String) : AdaptiveDecision F :=
  { d with disposition := .hold, reason := reason }

/-- The decision of the duplicate check. -/
def AdaptiveDecision.duplicate (d : AdaptiveDecision F) : AdaptiveDecision F :=
  { d.observe "duplicate_frame_observation_hold" with
    data := { d.data with
      quality := .degraded
      confidenceFactor := ofRat 0
      reason := "duplicate_frame_observation" } }

/-- The corpse branch applies. -/
def corpseControlled (sample : AdaptiveSample F) : Bool :=
  sample.capabilities.corpseControl == .available &&
    match sample.liveCorpseBurden, sample.userMaxDeadBodies, sample.adaptiveCorpseRuntimeLimit with
    | some live, some user, some limit =>
      decide (0 ≤ live ∧ 4 ≤ user ∧ user ≤ 2000 ∧ 4 ≤ limit ∧ limit ≤ user)
    | _, _, _ => false

/-- The corpse branch of `evaluate`. -/
def concludeCorpse (pressure : AdaptivePressure) (d : AdaptiveDecision F)
    (sample : AdaptiveSample F) : AdaptiveDecision F :=
  let currentLimit := sample.adaptiveCorpseRuntimeLimit.getD 0
  let liveBurden := sample.liveCorpseBurden.getD 0
  let selected : AdaptiveDecision F :=
    { d with
      selectedSetting := "AdaptiveCorpseRuntimeLimit"
      oldValue := some (ofInt currentLimit)
      effectiveValue := some (ofInt currentLimit) }
  if sample.zedTimeProtected then
    { selected.hold "zed_time_corpse_correction_protected" with stabilityState := .hold }
  else
    let emergency := pressure == .emergency
    let step := intClamp (liveBurden / (if emergency then 12 else 24)) (if emergency then 4 else 2)
      (if emergency then 32 else 16)
    let proposedLimit := Max.max 4 (Min.min currentLimit liveBurden - step)
    if proposedLimit < currentLimit then
      { selected with
        proposedValue := some (ofInt proposedLimit)
        disposition := .pending
        stabilityState := .hold
        reason := "corpse_provider_pending_useful_runtime_reduction" }
    else selected.hold "corpse_runtime_limit_at_technical_minimum"

/-- The candidate branch of `evaluate`. -/
def concludeCandidate (registry : String → Option AdaptiveSettingRecord)
    (policy : AdaptivePolicy F) (d : AdaptiveDecision F) (sample : AdaptiveSample F)
    (locks : List AdaptiveManualLock) : AdaptiveDecision F :=
  let setting := candidateSetting d.bottleneck.type
  let d : AdaptiveDecision F := { d with selectedSetting := setting }
  let capability := candidateCapability d.bottleneck.type sample.capabilities
  if setting.isEmpty then
    d.hold (if d.bottleneck.type == .unknown then "unknown_bottleneck_observe_only"
      else "no_non_conflicting_safe_candidate")
  else if manualLockBlocks setting locks then
    { d with disposition := .blocked, reason := "per_setting_manual_lock" }
  else if d.data.quality != .valid then
    { d with disposition := .shadow, reason := "degraded_telemetry_shadow_only" }
  else match capability with
  | .failed => { d with disposition := .failed, reason := "candidate_capability_failed" }
  | .unavailable =>
    { d with disposition := .skippedUnavailable, reason := "candidate_capability_unavailable" }
  | .restartRequired =>
    { d with disposition := .restartRequired, reason := "candidate_is_startup_only" }
  | .shadow => { d with disposition := .shadow, reason := "candidate_capability_shadow" }
  | .available =>
    match registry setting with
    | none =>
      { d with disposition := .blocked, reason := "setting_missing_from_target_registry" }
    | some record =>
      let activeReady := record.activeReady capability
      let d : AdaptiveDecision F := { d with rollbackAvailable := record.rollbackPossible }
      if policy.shadowMode || !activeReady then
        { d with
          disposition := .shadow
          reason := if !activeReady then "candidate_is_lab_shadow_or_test_required"
            else "global_shadow_mode" }
      else
        { d with
          disposition := .proposed
          reason := "smallest_safe_transactional_canary_proposed" }

/-- The tail of `evaluate`, from the first test of `active_pressure_`. -/
def conclude (registry : String → Option AdaptiveSettingRecord) (pressure : AdaptivePressure)
    (policy : AdaptivePolicy F) (d : AdaptiveDecision F) (sample : AdaptiveSample F)
    (locks : List AdaptiveManualLock) : AdaptiveDecision F :=
  match pressure with
  | .observing => d.hold "adaptive_collecting_stable_baseline"
  | .healthy =>
    d.hold (if d.qualityRecoveryEligible then "stable_headroom_slow_quality_recovery_eligible"
      else "stable_or_reserve_insufficient_hold")
  | .warning => d.hold "early_warning_observe_only"
  | .intervention | .emergency =>
    if pressure == .emergency && sample.minimumQualityReached &&
        sample.capabilities.corpseControl != .available then
      { d.hold "target_unreachable_at_minimum_safe_quality" with
        state := .targetUnreachable
        stabilityState := .targetUnreachable
        targetUnreachable := true }
    else if corpseControlled sample then concludeCorpse pressure d sample
    else concludeCandidate registry policy d sample locks

/-! ## 2. The pressure a sample demands -/

/-- The frame signals of a sample, and what they say about correction. -/
structure FrameDemand where
  desired : FrameSignalLevel
  currentFramePressure : Bool
  longLowUnhealthy : Bool
  catastrophicLiveDrop : Bool

/-- The level of an optional percentile. -/
def levelForPercentile (fps : Option F) (bands : AdaptiveStabilityBands F) : FrameSignalLevel :=
  match fps with
  | some v => levelForFps v bands
  | none => .healthy

/-- The tail level of an optional percentile. -/
def tailForPercentile (fps : Option F) (targetFrameTime : F) : FrameSignalLevel :=
  match fps with
  | some v => levelForTail (div (ofRat 1000) v) targetFrameTime
  | none => .healthy

/-- The lowest a percentile may fall before it is catastrophic: half the target. -/
def halfTarget (policy : AdaptivePolicy F) : F := mul (ofInt policy.targetFps) (ofRat (50 / 100))

/-- `p95` of the sample itself. -/
def sampleTail (sample : AdaptiveSample F) (targetFrameTime : F) : FrameSignalLevel :=
  levelForTail (sample.p95FrameTimeMs.getD (orZero sample.frameTimeMs)) targetFrameTime

/-- `average_level`. -/
def averageLevel (sample : AdaptiveSample F) (bands : AdaptiveStabilityBands F) :
    FrameSignalLevel :=
  levelForFps (sample.averageFps.getD (orZero sample.fps)) bands

/-- `percentile_pressure_corroborated || catastrophic_percentile_pressure`. -/
def percentilePressure (policy : AdaptivePolicy F) (sample : AdaptiveSample F)
    (bands : AdaptiveStabilityBands F) : Bool :=
  ((sampleTail sample bands.targetFrameTimeMs).atLeast .corrective ||
    (levelForFps (orZero sample.fps) bands).atLeast .warning ||
    (averageLevel sample bands).atLeast .warning || sample.stutterCount != 0) ||
  (present (fun v => le v (halfTarget policy)) sample.sustainedOnePercentLowFps &&
    present (fun v => le v (halfTarget policy)) sample.onePercentLowFps)

/-- `low_percentiles_need_correction`. -/
def lowPercentilesNeedCorrection (policy : AdaptivePolicy F) (sample : AdaptiveSample F)
    (quality : AdaptiveDataQuality) (bands : AdaptiveStabilityBands F) : Bool :=
  quality == .valid &&
    (levelForPercentile sample.sustainedOnePercentLowFps bands).atLeast .corrective &&
    (levelForPercentile sample.onePercentLowFps bands).atLeast .corrective &&
    (tailForPercentile sample.sustainedOnePercentLowFps bands.targetFrameTimeMs).atLeast
      .corrective &&
    (tailForPercentile sample.onePercentLowFps bands.targetFrameTimeMs).atLeast .corrective &&
    percentilePressure policy sample bands

/-- `attributed_memory_pressure`, at the smoothed pressure from which it counts. -/
def memoryPressure (resources : ResourcePressureSnapshot F) (bound : ℚ) : Bool :=
  (resources.primary == .vram && le (ofRat bound) resources.vram.smoothed) ||
    (resources.primary == .ram && le (ofRat bound) resources.ram.smoothed)

/-- `desired_level` and the flags derived beside it. -/
def frameDemand (policy : AdaptivePolicy F) (sample : AdaptiveSample F)
    (bands : AdaptiveStabilityBands F) (frames : FrameAnalysis F)
    (confirmedLowPercentile attributedMemory criticalMemory : Bool) : FrameDemand :=
  let target := bands.targetFrameTimeMs
  let live := (levelForFps (orZero sample.fps) bands).maximum
    (levelForFrameTime frames.frameTimeMs bands)
  let trend :=
    if le (ofRat (50 / 100)) frames.predictionConfidence then
      levelForFrameTime frames.predictedFrameTimeMs bands
    else .healthy
  let sustained := (averageLevel sample bands).maximum trend
  let tail := (levelForTail frames.p95FrameTimeMs target).maximum
    (levelForStutters sample.stutterCount)
  let longLowUnhealthy := levelForPercentile sample.onePercentLowFps bands != .healthy &&
    percentilePressure policy sample bands
  let catastrophicLiveDrop := le (orZero sample.fps) (halfTarget policy) ||
    le (mul target (ofRat 2)) (orZero sample.frameTimeMs)
  let corrected := correctionLevel live sustained tail policy.emergencyEnabled catastrophicLiveDrop
  let warned :=
    if corrected = .healthy ∧ (live.atLeast .warning || sustained.atLeast .warning ||
        tail.atLeast .warning || longLowUnhealthy) then .warning else corrected
  let confirmed :=
    if confirmedLowPercentile && !warned.atLeast .corrective then .corrective else warned
  let currentLive := (levelForFps (orZero sample.fps) bands).maximum
    (levelForFrameTime (orZero sample.frameTimeMs) bands)
  let currentTail := (sampleTail sample target).maximum (levelForStutters sample.stutterCount)
  { desired :=
      if criticalMemory && policy.emergencyEnabled then .emergency
      else if attributedMemory && !confirmed.atLeast .corrective then .corrective
      else confirmed
    currentFramePressure :=
      (correctionLevel currentLive (averageLevel sample bands) currentTail policy.emergencyEnabled
        catastrophicLiveDrop).atLeast .corrective || confirmedLowPercentile
    longLowUnhealthy := longLowUnhealthy
    catastrophicLiveDrop := catastrophicLiveDrop }

/-- `desired`. -/
def desiredPressure : FrameSignalLevel → AdaptivePressure
  | .emergency => .emergency
  | .corrective => .intervention
  | .warning => .warning
  | .healthy => .healthy

/-- The estimator's input for a sample with the given smoothed frame times. -/
def resourceInput (policy : AdaptivePolicy F) (sample : AdaptiveSample F)
    (frames : FrameAnalysis F) : ResourcePressureInput F where
  timestampNs := sample.timestampNs
  targetFps := policy.targetFps
  frameTimeMs := some frames.frameTimeMs
  p95FrameTimeMs := some frames.p95FrameTimeMs
  processCpuPercent := sample.cpuPercent
  systemCpuPercent := sample.systemCpuPercent
  criticalThreadPercent := sample.criticalCorePercent
  effectiveCoreUsage := sample.effectiveCoreUsage
  affinityLogicalProcessors := sample.affinityLogicalProcessors
  processGpuPercent := sample.processGpuPercent
  adapterGpuPercent := sample.gpuPercent
  vramUsedBytes := sample.vramUsedBytes
  vramBudgetBytes := sample.vramBudgetBytes
  ramUsedBytes := sample.ramUsedBytes
  ramBudgetBytes := sample.ramBudgetBytes
  commitUsedBytes := sample.commitUsedBytes
  commitBudgetBytes := sample.commitBudgetBytes
  processPrivateBytes := sample.processPrivateBytes
  pagingPressure := sample.pagingPressure

/-! ## 3. The analysis of a fresh sample -/

namespace Governor

/-- What `evaluate` does with a sample that has passed the duplicate check. -/
def analyse (registry : String → Option AdaptiveSettingRecord) (g : Governor F)
    (policy : AdaptivePolicy F) (sample : AdaptiveSample F) (nowNs : ℕ)
    (locks : List AdaptiveManualLock) (decision : AdaptiveDecision F) :
    Governor F × AdaptiveDecision F :=
  let bands := decision.bands
  let g := { g with lastFrameTimestampNs := sample.timestampNs }
  let (g, frames) := g.updateFrameAnalysis policy sample decision.data.confidenceFactor
  let (estimator, resources) :=
    g.resourcePressureEstimator.evaluate (resourceInput policy sample frames)
  let attributedMemory :=
    le (ofRat (55 / 100)) resources.primaryConfidence && memoryPressure resources (75 / 100)
  let criticalMemory := attributedMemory && memoryPressure resources (90 / 100)
  let since :=
    if lowPercentilesNeedCorrection policy sample decision.data.quality bands then
      if g.lowPercentilePressureSinceNs = 0 then nowNs else g.lowPercentilePressureSinceNs
    else 0
  let confirmedLowPercentile := since != 0 && decide (since ≤ nowNs) &&
    decide (3500000000 ≤ nowNs - since)
  let demand := frameDemand policy sample bands frames confirmedLowPercentile attributedMemory
    criticalMemory
  let g := { g with
    resourcePressureEstimator := estimator
    lowPercentilePressureSinceNs := since }
  let g := g.updatePressureHysteresis (desiredPressure demand.desired) policy
    demand.catastrophicLiveDrop nowNs
  let score := clamp (sample.qualityScore.getD (ofInt policy.maximumQuality))
    (ofInt policy.minimumQuality) (ofInt policy.maximumQuality)
  let eligible := policy.qualityRecoveryEnabled && g.activePressure == .healthy &&
    demand.desired == .healthy && !demand.longLowUnhealthy && resources.recoverySafe &&
    le policy.performanceHeadroom resources.headroom &&
    lt score (ofInt policy.maximumQuality)
  let decision : AdaptiveDecision F :=
    { decision with
      predictedFrameTimeMs := some frames.predictedFrameTimeMs
      predictionConfidence := frames.predictionConfidence
      dropRisk := mul (clamp (div (sub (div frames.predictedFrameTimeMs bands.targetFrameTimeMs)
        (ofRat (98 / 100))) (ofRat (30 / 100))) (ofRat 0) (ofRat 1)) frames.predictionConfidence
      resources := resources
      headroom := resources.headroom
      currentResourcePressure := attributedMemory
      currentFramePressure := demand.currentFramePressure
      pressure := g.activePressure
      state := stateFor g.activePressure
      stabilityState :=
        if eligible then .recovering else stabilityStateFor g.activePressure
      qualityScore := score
      qualityRecoveryEligible := eligible
      bottleneck := classifyBottleneck sample decision.data decision.cpu g.activePressure
        resources }
  let (g, decision) := g.updateBottleneckHysteresis decision sample nowNs
  (g, conclude registry g.activePressure policy decision sample locks)

/-! ## 4. The boundary -/

/-- The target bookkeeping: the governor afterwards, and `target_changed`. -/
def retarget (g : Governor F) (policy : AdaptivePolicy F) : Governor F × Bool :=
  if validTargetFps policy.targetFps then
    if g.targetFps = 0 then ({ g with targetFps := policy.targetFps, settingsGeneration := 1 }, false)
    else if g.targetFps ≠ policy.targetFps then
      ({ g with
        targetFps := policy.targetFps
        settingsGeneration := u64 (g.settingsGeneration + 1) }, true)
    else (g, false)
  else (g, false)

/-- `frame_transition`. -/
def frameTransition (g : Governor F) (sample : AdaptiveSample F) : Bool :=
  g.identityPid != 0 &&
    (sample.frameGeneration != g.frameGeneration || sample.frameStreamId != g.frameStreamId)

/-- `boundary`. -/
def boundary (g : Governor F) (targetChanged : Bool) (sample : AdaptiveSample F) : Bool :=
  targetChanged || g.frameTransition sample || boundaryFlagged sample ||
    sample.pid != g.identityPid || sample.processStartId != g.identityStartId ||
    (g.sessionGeneration != 0 && sample.sessionGeneration != g.sessionGeneration) ||
    (g.mapGeneration != 0 && sample.mapGeneration != g.mapGeneration)

/-- The identity a sample binds the governor to. -/
def identify (g : Governor F) (sample : AdaptiveSample F) : Governor F :=
  { g with
    identityPid := sample.pid
    identityStartId := sample.processStartId
    sessionGeneration := sample.sessionGeneration
    mapGeneration := sample.mapGeneration
    frameGeneration := sample.frameGeneration
    frameStreamId := sample.frameStreamId }

/-- The boundary bookkeeping: the governor afterwards, `target_changed` and `boundary`. -/
def bind (g : Governor F) (policy : AdaptivePolicy F) (sample : AdaptiveSample F) (nowNs : ℕ) :
    Governor F × Bool × Bool :=
  let (g, targetChanged) := g.retarget policy
  let isBoundary := g.boundary targetChanged sample
  let g' := if isBoundary then
      g.resetForBoundary nowNs (g.frameTransition sample || boundaryFlagged sample)
    else g
  (g'.identify sample, targetChanged, isBoundary)

/-! ## 5. `evaluate` -/

/-- The freeze check. -/
def freezes (g : Governor F) (nowNs : ℕ) : Bool :=
  g.frozen || (g.lastEvaluationNs != 0 && decide (nowNs < g.lastEvaluationNs))

/-- The sample is older than the last applied quality. -/
def awaitsFreshFrame (g : Governor F) (sample : AdaptiveSample F) : Bool :=
  g.qualityAppliedNotBeforeNs != 0 && decide (sample.timestampNs < g.qualityAppliedNotBeforeNs)

/-- The duplicate check. -/
def isDuplicate (g : Governor F) (sample : AdaptiveSample F) : Bool :=
  sample.duplicateSample || decide (sample.timestampNs ≤ g.lastFrameTimestampNs)

/-- `evaluate` from the boundary on: the sample is available. -/
def evaluateAvailable (registry : String → Option AdaptiveSettingRecord) (g : Governor F)
    (policy : AdaptivePolicy F) (sample : AdaptiveSample F) (nowNs : ℕ)
    (locks : List AdaptiveManualLock) (decision : AdaptiveDecision F) :
    Governor F × AdaptiveDecision F :=
  let (g, targetChanged, isBoundary) := g.bind policy sample nowNs
  let decision : AdaptiveDecision F :=
    { decision with
      restoreGeneration := g.restoreGeneration
      settingsGeneration := g.settingsGeneration }
  if targetChanged then
    (g, { decision.observe "target_changed_stabilization_hold" with stabilityState := .hold })
  else if g.stabilizationUntilNs ≠ 0 ∧ nowNs < g.stabilizationUntilNs then
    (g, { decision.observe "telemetry_transition_stabilization_hold" with stabilityState := .hold })
  else
    let g := { g with stabilizationUntilNs := 0 }
    if decision.data.quality = .degraded ∧ isBoundary then
      (g, decision.observe "boundary_stabilization_hold")
    else if g.isDuplicate sample then (g, decision.duplicate)
    else analyse registry g policy sample nowNs locks decision

/-- `last_evaluation_ns_ = now_ns`. -/
def tick (g : Governor F) (nowNs : ℕ) : Governor F := { g with lastEvaluationNs := nowNs }

/-- `evaluate` past the freeze check. -/
def evaluateTicked (registry : String → Option AdaptiveSettingRecord) (g : Governor F)
    (policy : AdaptivePolicy F) (sample : AdaptiveSample F) (nowNs : ℕ)
    (locks : List AdaptiveManualLock) (decision : AdaptiveDecision F) :
    Governor F × AdaptiveDecision F :=
  if g.awaitsFreshFrame sample then
    (g, decision.observe "quality_applied_waiting_for_fresh_frame")
  else if decision.data.quality = .notAvailable then
    ({ g with lowPercentilePressureSinceNs := 0 }, decision.observe decision.data.reason)
  else evaluateAvailable registry g policy sample nowNs locks decision

/-- `evaluate`. -/
def evaluate (registry : String → Option AdaptiveSettingRecord) (g : Governor F)
    (policy : AdaptivePolicy F) (sample : AdaptiveSample F) (nowNs : ℕ)
    (locks : List AdaptiveManualLock) : Governor F × AdaptiveDecision F :=
  let decision := g.baseDecision policy sample nowNs
  if g.freezes nowNs then
    ({ g with frozen := true },
      { decision with
        state := .frozen
        disposition := .blocked
        reason := "watchdog_non_monotonic_or_frozen"
        watchdogFrozen := true })
  else evaluateTicked registry (g.tick nowNs) policy sample nowNs locks decision

theorem evaluate_of_monotone (registry : String → Option AdaptiveSettingRecord) {g : Governor F}
    (policy : AdaptivePolicy F) (sample : AdaptiveSample F) {nowNs : ℕ}
    (locks : List AdaptiveManualLock) (h : g.freezes nowNs = false) :
    g.evaluate registry policy sample nowNs locks =
      evaluateTicked registry (g.tick nowNs) policy sample nowNs locks
        (g.baseDecision policy sample nowNs) := by
  simp [evaluate, h]

/-- `reset`. -/
def reset (_ : Governor F) : Governor F := Governor.init

end Governor

end Kf2Optimizer.Optimizer
