/-
# Statistics of a frame window

A present is the time at which a frame reached the screen, stamped with the process it belongs
to; `FrameMetrics` is what is said about a window of them.  `aggregatePresents` is the plain
computation: one window, one sort.  It is stated over `ℚ`, exact arithmetic in place of `double`.
-/
import Kf2Optimizer.Lib.Ranks

namespace Kf2Optimizer.Telemetry

/-! ## 1. Data -/

structure SampleIdentity where
  pid : ℕ := 0
  processStartId : ℕ := 0
  deriving DecidableEq

inductive SampleQuality
  | unavailable | degraded | good
  deriving DecidableEq

inductive UnavailableReason
  | none | noSamples | stale | identityMismatch | discontinuity | sourceFailure
  deriving DecidableEq

structure PresentTimestamp where
  identity : SampleIdentity
  monotonicNs : ℕ
  deriving DecidableEq

structure FrameMetrics (F : Type) where
  fps : Option F := none
  averageFps : Option F := none
  sustainedOnePercentLowFps : Option F := none
  frameTimeMs : Option F := none
  p95Ms : Option F := none
  p99Ms : Option F := none
  onePercentLowFps : Option F := none
  stutterCount : ℕ := 0
  ageNs : ℕ := 0
  lossCount : ℕ := 0
  newestPresentNs : ℕ := 0
  sourceGeneration : ℕ := 0
  streamId : ℕ := 0
  quality : SampleQuality := .unavailable
  reason : UnavailableReason := .noSamples
  deriving DecidableEq

/-- `PresentSource::Window`. -/
structure Window (F : Type) where
  metrics : FrameMetrics F := {}
  streamId : ℕ := 0
  generation : ℕ := 0
  spanNs : ℕ := 0
  count : ℕ := 0
  complete : Bool := false
  deriving DecidableEq

/-! ## 2. One window -/

/-- The age of the newest present. -/
def ageOf (newest nowNs : ℕ) : ℕ := if newest ≤ nowNs then nowNs - newest else 0

/-- A reading that comes too late, or from before the newest present. -/
def Stale (newest nowNs staleAfterNs : ℕ) : Prop :=
  nowNs < newest ∨ staleAfterNs < ageOf newest nowNs

instance (newest nowNs staleAfterNs : ℕ) : Decidable (Stale newest nowNs staleAfterNs) := by
  unfold Stale; infer_instance

/-- The time between two presents. -/
def intervalMs (previous current : ℕ) : ℚ := ((current - previous : ℕ) : ℚ) / 1000000

/-- `rank`: how many of `count` make up the fraction. -/
def rank (count : ℕ) (fraction : ℚ) : ℕ := ⌈(count : ℚ) * fraction⌉₊

/-- `percentile`: the nearest rank. -/
def percentile (sorted : List ℚ) (fraction : ℚ) : ℚ :=
  sorted.getD (min (⌈fraction * (sorted.length : ℚ)⌉₊ - 1) (sorted.length - 1)) 0

/-- The intervals of a window, and how many presents did not come after their predecessor. -/
def plainIntervals : ℕ → List PresentTimestamp → List ℚ × ℕ
  | _, [] => ([], 0)
  | previous, p :: rest =>
    if p.monotonicNs ≤ previous then
      let tail := plainIntervals previous rest
      (tail.1, tail.2 + 1)
    else
      let tail := plainIntervals p.monotonicNs rest
      (intervalMs previous p.monotonicNs :: tail.1, tail.2)

def unavailable (reason : UnavailableReason) (age : ℕ) : FrameMetrics ℚ :=
  { reason := reason, ageNs := age }

/-- The statistics of a window with intervals. -/
def metricsOf (intervals : List ℚ) (loss age newest : ℕ) : FrameMetrics ℚ :=
  let average := intervals.sum / (intervals.length : ℚ)
  let sorted := Ranks.sortBy id intervals
  let slowCount := max 1 (rank intervals.length (1 / 100))
  let slowAverage := (sorted.drop (sorted.length - slowCount)).sum / (slowCount : ℚ)
  let stutterLimit := max 50 (percentile sorted (1 / 2) * 2)
  { fps := some (1000 / average)
    averageFps := some (1000 / average)
    frameTimeMs := some average
    p95Ms := some (percentile sorted (95 / 100))
    p99Ms := some (percentile sorted (99 / 100))
    onePercentLowFps := some (1000 / slowAverage)
    stutterCount := sorted.countP fun interval => decide (stutterLimit < interval)
    ageNs := age
    newestPresentNs := newest
    lossCount := loss
    quality := if loss = 0 then .good else .degraded
    reason := .none }

/-- `aggregate_presents`. -/
def aggregatePresents (presents : List PresentTimestamp) (expected : SampleIdentity)
    (nowNs staleAfterNs : ℕ) : FrameMetrics ℚ :=
  match presents, presents.getLast? with
  | first :: _ :: _, some last =>
    if presents.any fun p => decide (p.identity ≠ expected) then
      unavailable .identityMismatch 0
    else
      let newest := last.monotonicNs
      let age := ageOf newest nowNs
      if Stale newest nowNs staleAfterNs then
        { unavailable .stale age with newestPresentNs := newest }
      else
        let (intervals, loss) := plainIntervals first.monotonicNs presents.tail
        if intervals = [] then { unavailable .discontinuity age with lossCount := loss }
        else metricsOf intervals loss age newest
  | _, _ => unavailable .noSamples 0

end Kf2Optimizer.Telemetry
