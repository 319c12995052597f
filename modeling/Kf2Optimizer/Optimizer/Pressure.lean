/-
# Resource pressure

`ResourcePressureEstimator` (`resource_pressure.hpp`, `resource_pressure.cpp`): one raw pressure
in `[0, 1]` for each of CPU, GPU, VRAM and RAM, smoothed with a fast attack and a slow release,
and from the four the primary cause, the head room and whether a recovery is safe.
-/
import Kf2Optimizer.Lib.Double

set_option linter.unusedSectionVars false

namespace Kf2Optimizer.Optimizer

open DoubleOps

variable {F : Type} [DoubleOps F]

/-! ## 1. Inputs and results -/

/-- `ResourceKind`. -/
inductive ResourceKind
  | cpu | gpu | vram | ram | unknown
deriving DecidableEq, Repr

/-- `PressureTrend`. -/
inductive PressureTrend
  | unknown | falling | stable | rising
deriving DecidableEq, Repr

/-- `ResourcePressureSignal`. -/
structure ResourcePressureSignal (F : Type) where
  raw : F
  smoothed : F
  confidence : F
  trend : PressureTrend
  reserveBytes : Option F

/-- `ResourcePressureSignal{}`. -/
def ResourcePressureSignal.init : ResourcePressureSignal F :=
  ⟨ofRat 0, ofRat 0, ofRat 0, .unknown, none⟩

/-- `ResourcePressureInput`. -/
structure ResourcePressureInput (F : Type) where
  timestampNs : ℕ
  targetFps : ℤ
  frameTimeMs : Option F
  p95FrameTimeMs : Option F
  processCpuPercent : Option F
  systemCpuPercent : Option F
  criticalThreadPercent : Option F
  effectiveCoreUsage : Option F
  affinityLogicalProcessors : Option ℕ
  processGpuPercent : Option F
  adapterGpuPercent : Option F
  vramUsedBytes : Option F
  vramBudgetBytes : Option F
  ramUsedBytes : Option F
  ramBudgetBytes : Option F
  commitUsedBytes : Option F
  commitBudgetBytes : Option F
  processPrivateBytes : Option F
  pagingPressure : Option F
  discontinuity : Bool := false

/-- `ResourcePressureSnapshot`. -/
structure ResourcePressureSnapshot (F : Type) where
  cpu : ResourcePressureSignal F
  gpu : ResourcePressureSignal F
  vram : ResourcePressureSignal F
  ram : ResourcePressureSignal F
  primary : ResourceKind
  primaryConfidence : F
  total : F
  headroom : F
  frameBudgetDeficitMs : F
  predictedDeficitMs : F
  recoverySafe : Bool
  sharedCpuPressure : Bool
  sharedGpuPressure : Bool

/-- `ResourcePressureSnapshot{}`. -/
def ResourcePressureSnapshot.init : ResourcePressureSnapshot F where
  cpu := .init
  gpu := .init
  vram := .init
  ram := .init
  primary := .unknown
  primaryConfidence := ofRat 0
  total := ofRat 0
  headroom := ofRat 0
  frameBudgetDeficitMs := ofRat 0
  predictedDeficitMs := ofRat 0
  recoverySafe := false
  sharedCpuPressure := false
  sharedGpuPressure := false

/-! ## 2. Readings -/

def kBytesPerGiB : F := ofRat (1024 * 1024 * 1024)

/-- `valid_nonnegative`. -/
def validNonnegative : Option F → Bool
  | some v => isFinite v && le (ofRat 0) v
  | none => false

/-- `normalized`. -/
def normalized (value healthy critical : F) : F :=
  if !isFinite value || le critical healthy then ofRat 0
  else clamp (div (sub value healthy) (sub critical healthy)) (ofRat 0) (ofRat 1)

/-- `occupancy`. -/
def occupancy (used budget : Option F) : Option F :=
  match used, budget with
  | some u, some b =>
    if !validNonnegative (some u) || !validNonnegative (some b) || le b (ofRat 0) then none
    else some (clamp (div u b) (ofRat 0) (ofRat 1))
  | _, _ => none

/-- `confidence_for`. -/
def confidenceFor (signals : List Bool) : F :=
  clamp (add (ofRat (35 / 100)) (mul (ofInt (signals.count true)) (ofRat (20 / 100))))
    (ofRat 0) (ofRat (95 / 100))

/-- `trend_for`. -/
def trendFor (previous current : F) : PressureTrend :=
  if lt (add previous (ofRat (25 / 1000))) current then .rising
  else if lt current (sub previous (ofRat (25 / 1000))) then .falling
  else .stable

/-- `a.value_or(b)` for a percentage or a pressure. -/
def orZero (v : Option F) : F := v.getD (ofRat 0)

/-! ## 3. Raw signals -/

namespace ResourcePressureInput

/-- `target_ms`. -/
def targetMs (input : ResourcePressureInput F) : F :=
  if 0 < input.targetFps then div (ofRat 1000) (ofInt input.targetFps) else ofRat 0

/-- `observed_ms`. -/
def observedMs (input : ResourcePressureInput F) : F :=
  input.p95FrameTimeMs.getD (input.frameTimeMs.getD input.targetMs)

/-- `frame_budget_missed`. -/
def frameBudgetMissed (input : ResourcePressureInput F) : Bool :=
  lt (ofRat 0) input.targetMs && le (add input.targetMs (ofRat (25 / 100))) input.observedMs

/-- `capacity`. -/
def capacity (input : ResourcePressureInput F) : F :=
  ofInt (input.affinityLogicalProcessors.getD 0)

/-- `parallel_percent`. -/
def parallelPercent (input : ResourcePressureInput F) : F :=
  if lt (ofRat 0) input.capacity then
    div (mul (orZero input.effectiveCoreUsage) (ofRat 100)) input.capacity
  else ofRat 0

/-- `process_cpu`. -/
def processCpu (input : ResourcePressureInput F) : F :=
  DoubleOps.max (DoubleOps.max
    (normalized (orZero input.processCpuPercent) (ofRat 65) (ofRat 92))
    (normalized (orZero input.criticalThreadPercent) (ofRat 65) (ofRat 96)))
    (normalized input.parallelPercent (ofRat 55) (ofRat 85))

/-- `system_cpu`. -/
def systemCpu (input : ResourcePressureInput F) : F :=
  normalized (orZero input.systemCpuPercent) (ofRat 75) (ofRat 98)

/-- `result.cpu`, before smoothing. -/
def cpuSignal (input : ResourcePressureInput F) : ResourcePressureSignal F :=
  { (ResourcePressureSignal.init : ResourcePressureSignal F) with
    raw := DoubleOps.max input.processCpu
      (if input.frameBudgetMissed then input.systemCpu
       else mul input.systemCpu (ofRat (50 / 100)))
    confidence := confidenceFor [input.processCpuPercent.isSome, input.systemCpuPercent.isSome,
      input.criticalThreadPercent.isSome,
      input.effectiveCoreUsage.isSome && lt (ofRat 0) input.capacity] }

/-- `result.shared_cpu_pressure`. -/
def sharedCpuPressure (input : ResourcePressureInput F) : Bool :=
  input.frameBudgetMissed && le (ofRat (70 / 100)) input.systemCpu &&
    lt input.processCpu (ofRat (70 / 100))

/-- `process_gpu`. -/
def processGpu (input : ResourcePressureInput F) : F :=
  normalized (orZero input.processGpuPercent) (ofRat 70) (ofRat 97)

/-- `adapter_gpu`. -/
def adapterGpu (input : ResourcePressureInput F) : F :=
  normalized (orZero input.adapterGpuPercent) (ofRat 78) (ofRat 99)

/-- `shared_gpu`. -/
def sharedGpu (input : ResourcePressureInput F) : Bool :=
  input.frameBudgetMissed && le (ofRat (70 / 100)) input.adapterGpu &&
    lt input.processGpu (ofRat (70 / 100))

/-- `result.gpu`, before smoothing. -/
def gpuSignal (input : ResourcePressureInput F) : ResourcePressureSignal F :=
  let confidence : F :=
    confidenceFor [input.processGpuPercent.isSome, input.adapterGpuPercent.isSome]
  { (ResourcePressureSignal.init : ResourcePressureSignal F) with
    raw := if input.processGpuPercent.isSome then
        DoubleOps.max input.processGpu
          (mul input.adapterGpu (if input.sharedGpu then ofRat 1 else ofRat (65 / 100)))
      else input.adapterGpu
    confidence :=
      if input.processGpuPercent.isNone && input.adapterGpuPercent.isSome then
        DoubleOps.min confidence (ofRat (55 / 100))
      else confidence }

/-- The reserve behind a complete measurement. -/
def reserve (used budget : Option F) : Option F :=
  match used, budget with
  | some u, some b => if le u b then some (sub b u) else none
  | _, _ => none

/-- A raw pressure raised to `0.90` when the reserve is below `limit`. -/
def raiseOnReserve (raw : F) (reserveBytes : Option F) (limit : F) : F :=
  match reserveBytes with
  | some bytes => if lt bytes limit then DoubleOps.max raw (ofRat (90 / 100)) else raw
  | none => raw

/-- `result.vram`, before smoothing. -/
def vramSignal (input : ResourcePressureInput F) : ResourcePressureSignal F :=
  let vramOccupancy := occupancy input.vramUsedBytes input.vramBudgetBytes
  let reserveBytes :=
    if vramOccupancy.isSome then reserve input.vramUsedBytes input.vramBudgetBytes else none
  { (ResourcePressureSignal.init : ResourcePressureSignal F) with
    raw := raiseOnReserve (normalized (orZero vramOccupancy) (ofRat (80 / 100)) (ofRat (97 / 100)))
      reserveBytes (mul (ofRat (1 / 2)) kBytesPerGiB)
    confidence := confidenceFor [vramOccupancy.isSome, vramOccupancy.isSome]
    reserveBytes := reserveBytes }

/-- `paging_valid`. -/
def pagingValid (input : ResourcePressureInput F) : Bool :=
  match input.pagingPressure with
  | some p => validNonnegative (some p) && le p (ofRat 1)
  | none => false

/-- `result.ram`, before smoothing. -/
def ramSignal (input : ResourcePressureInput F) : ResourcePressureSignal F :=
  let ramOccupancy := occupancy input.ramUsedBytes input.ramBudgetBytes
  let commitOccupancy := occupancy input.commitUsedBytes input.commitBudgetBytes
  let paging := if input.pagingValid then orZero input.pagingPressure else ofRat 0
  let raw := DoubleOps.max (DoubleOps.max
    (normalized (orZero ramOccupancy) (ofRat (78 / 100)) (ofRat (96 / 100)))
    (normalized (orZero commitOccupancy) (ofRat (75 / 100)) (ofRat (95 / 100)))) paging
  let ramReserve :=
    if ramOccupancy.isSome then reserve input.ramUsedBytes input.ramBudgetBytes else none
  let commitReserve :=
    if commitOccupancy.isSome then reserve input.commitUsedBytes input.commitBudgetBytes else none
  { (ResourcePressureSignal.init : ResourcePressureSignal F) with
    raw := raiseOnReserve (raiseOnReserve raw ramReserve (mul (ofRat 1) kBytesPerGiB))
      commitReserve (mul (ofRat 1) kBytesPerGiB)
    confidence :=
      if ramOccupancy.isSome || commitOccupancy.isSome || input.pagingValid then
        confidenceFor [ramOccupancy.isSome, ramOccupancy.isSome, commitOccupancy.isSome,
          commitOccupancy.isSome, validNonnegative input.processPrivateBytes, input.pagingValid]
      else confidenceFor []
    reserveBytes :=
      match ramReserve, commitReserve with
      | some r, some c => some (DoubleOps.min r c)
      | none, some c => some c
      | r, none => r }

end ResourcePressureInput

/-! ## 4. The estimator -/

/-- `ResourcePressureEstimator::State`. -/
structure SignalState (F : Type) where
  initialized : Bool
  smoothed : F
  previousRaw : F

/-- `State{}`. -/
def SignalState.init : SignalState F := ⟨false, ofRat 0, ofRat 0⟩

/-- `ResourcePressureEstimator`. -/
structure ResourcePressureEstimator (F : Type) where
  cpu : SignalState F
  gpu : SignalState F
  vram : SignalState F
  ram : SignalState F
  previousP95Ms : Option F
  previousTimestampNs : ℕ

/-- A new estimator, and what `reset` leaves. -/
def ResourcePressureEstimator.init : ResourcePressureEstimator F :=
  ⟨.init, .init, .init, .init, none, 0⟩

/-- The body of the smoothing loop. -/
def SignalState.smooth (state : SignalState F) (signal : ResourcePressureSignal F) :
    SignalState F × ResourcePressureSignal F :=
  let smoothed :=
    if !state.initialized then signal.raw
    else
      let alpha := if lt state.smoothed signal.raw then ofRat (55 / 100) else ofRat (18 / 100)
      add state.smoothed (mul alpha (sub signal.raw state.smoothed))
  (⟨true, smoothed, signal.raw⟩,
    { signal with
      trend := if !state.initialized then .unknown else trendFor state.previousRaw signal.raw
      smoothed := clamp smoothed (ofRat 0) (ofRat 1) })

/-- What the evidence loop accumulates. -/
structure Evidence (F : Type) where
  best : F
  primary : ResourceKind
  primaryConfidence : F
  total : F
  available : ℕ
  compute : Bool
  memory : Bool

/-- The body of the evidence loop. -/
def Evidence.weigh (e : Evidence F) (kind : ResourceKind) (signal : ResourcePressureSignal F) :
    Evidence F :=
  let evidence := mul signal.smoothed signal.confidence
  let counted := le (ofRat (55 / 100)) signal.confidence
  { best := if lt e.best evidence then evidence else e.best
    primary := if lt e.best evidence then kind else e.primary
    primaryConfidence := if lt e.best evidence then signal.confidence else e.primaryConfidence
    total := DoubleOps.max e.total signal.smoothed
    available := if counted then e.available + 1 else e.available
    compute := e.compute || (counted && (kind == .cpu || kind == .gpu))
    memory := e.memory || (counted && (kind == .vram || kind == .ram)) }

namespace ResourcePressureEstimator

/-- What a rising p95 adds to `predicted_deficit_ms`. -/
def risingDeficit (estimator : ResourcePressureEstimator F) (input : ResourcePressureInput F) :
    Option F := do
  let previous ← estimator.previousP95Ms
  guard (estimator.previousTimestampNs ≠ 0 ∧ estimator.previousTimestampNs < input.timestampNs)
  let p95 ← input.p95FrameTimeMs
  let elapsedSeconds : F :=
    div (ofInt (input.timestampNs - estimator.previousTimestampNs)) (ofRat 1000000000)
  guard (lt (ofRat 0) elapsedSeconds && le elapsedSeconds (ofRat 5))
  let risingMsPerSecond := DoubleOps.max (ofRat 0) (div (sub p95 previous) elapsedSeconds)
  return DoubleOps.min (mul risingMsPerSecond (ofRat 2)) input.targetMs

/-- `evaluate`. -/
def evaluate (estimator : ResourcePressureEstimator F) (input : ResourcePressureInput F) :
    ResourcePressureEstimator F × ResourcePressureSnapshot F :=
  let before :=
    if input.discontinuity || decide (input.timestampNs < estimator.previousTimestampNs) then init
    else estimator
  let cpu := before.cpu.smooth input.cpuSignal
  let gpu := before.gpu.smooth input.gpuSignal
  let vram := before.vram.smooth input.vramSignal
  let ram := before.ram.smooth input.ramSignal
  let none' : Evidence F := ⟨ofRat 0, .unknown, ofRat 0, ofRat 0, 0, false, false⟩
  let evidence := (((none'.weigh .cpu cpu.2).weigh .gpu gpu.2).weigh .vram vram.2).weigh .ram ram.2
  let proven := !lt evidence.best (ofRat (50 / 100))
  let deficit :=
    if lt (ofRat 0) input.targetMs then
      DoubleOps.max (ofRat 0) (sub input.observedMs input.targetMs)
    else ofRat 0
  (⟨cpu.1, gpu.1, vram.1, ram.1, input.p95FrameTimeMs, input.timestampNs⟩,
    { cpu := cpu.2
      gpu := gpu.2
      vram := vram.2
      ram := ram.2
      primary := if proven then evidence.primary else .unknown
      primaryConfidence := if proven then evidence.primaryConfidence else ofRat 0
      total := evidence.total
      headroom := clamp (sub (ofRat 1) evidence.total) (ofRat 0) (ofRat 1)
      frameBudgetDeficitMs := deficit
      predictedDeficitMs :=
        match before.risingDeficit input with
        | some rising => add deficit rising
        | none => deficit
      recoverySafe := decide (2 ≤ evidence.available) && evidence.compute && evidence.memory &&
        le evidence.total (ofRat (55 / 100))
      sharedCpuPressure := input.sharedCpuPressure
      sharedGpuPressure := input.sharedGpu })

end ResourcePressureEstimator

end Kf2Optimizer.Optimizer
