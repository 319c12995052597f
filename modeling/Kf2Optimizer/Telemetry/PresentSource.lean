/-
# The source of presents

`PresentSource` keeps the presents of one process, a queue for each swapchain, and answers a
drain with the statistics of one of them.  A queue is a list in strictly increasing order of
time, all of the bound process: `ingest` inserts in order and drops repetitions.

`aggregateWindows` computes the statistics of four overlapping windows with one sort and one
pass.  It is the code's own `aggregate_windows`, ranks, counters and all.
-/
import Kf2Optimizer.Telemetry.FrameMetrics

namespace Kf2Optimizer.Telemetry

/-! ## 1. Queues -/

/-- The presents of one stream. -/
structure PresentQueue (identity : SampleIdentity) where
  presents : List PresentTimestamp
  increasing : presents.Pairwise fun p q => p.monotonicNs < q.monotonicNs
  same : ∀ p ∈ presents, p.identity = identity
  bounded : ∀ p ∈ presents, p.monotonicNs < 2 ^ 64

/-- `std::lower_bound` by time. -/
def lowerBound (presents : List PresentTimestamp) (ns : ℕ) : ℕ :=
  presents.findIdx fun p => decide (ns ≤ p.monotonicNs)

/-- The presents from a time on, in a list that is in order. -/
theorem drop_lowerBound {presents : List PresentTimestamp}
    (h : presents.Pairwise fun p q => p.monotonicNs < q.monotonicNs) (ns : ℕ) :
    presents.drop (lowerBound presents ns) =
      presents.filter fun p => decide (ns ≤ p.monotonicNs) := by
  induction presents with
  | nil => rfl
  | cons p rest ih =>
    obtain ⟨hhead, htail⟩ := List.pairwise_cons.mp h
    by_cases hp : ns ≤ p.monotonicNs
    · have hrest : ∀ q ∈ rest, ns ≤ q.monotonicNs := fun q hq => hp.trans (hhead q hq).le
      have hall : (rest.filter fun q => decide (ns ≤ q.monotonicNs)) = rest :=
        List.filter_eq_self.mpr fun q hq => decide_eq_true (hrest q hq)
      simp [lowerBound, List.findIdx_cons, hp, hall]
    · have hbound : lowerBound (p :: rest) ns = lowerBound rest ns + 1 := by
        simp [lowerBound, List.findIdx_cons, hp]
      rw [hbound, List.drop_succ_cons, ih htail]
      simp [hp]

namespace PresentQueue

variable {identity : SampleIdentity}

def empty : PresentQueue identity := ⟨[], .nil, by simp, by simp⟩

/-- `back().monotonic_ns`. -/
def newest (q : PresentQueue identity) : Option ℕ := q.presents.getLast?.map (·.monotonicNs)

end PresentQueue

/-! ## 2. Four windows in one pass -/

def liveWindowNs : ℕ := 1000000000
def sustainedWindowNs : ℕ := 3000000000
def tailWindowNs : ℕ := 5000000000
def longestWindowNs : ℕ := 10000000000

/-- `std::numeric_limits<std::uint64_t>::max()`. -/
def uint64Max : ℕ := 2 ^ 64 - 1

/-- The earliest time of a window that ends at `newest`. -/
def windowCutoff (newest duration boundary : ℕ) : ℕ :=
  max boundary (if duration < newest then newest - duration else 0)

/-- `first_index`. -/
def firstIndex (presents : List PresentTimestamp) (newest duration boundary : ℕ) : ℕ :=
  min (presents.length - 1) (lowerBound presents (windowCutoff newest duration boundary))

/-- An interval and the index of the present that ends it. -/
structure Interval where
  ms : ℚ
  index : ℕ

/-- The intervals that end at the indices from `i` on, in a list whose head has index `i - 1`. -/
def intervalsFrom : ℕ → List PresentTimestamp → List Interval
  | i, p :: q :: rest =>
    ⟨intervalMs p.monotonicNs q.monotonicNs, i⟩ :: intervalsFrom (i + 1) (q :: rest)
  | _, _ => []

/-- The buffer and the two totals of the first loop. -/
structure Collected where
  sorted : List Interval := []
  liveTotal : ℚ := 0
  sustainedTotal : ℚ := 0

def Collected.add (liveFirst longFirst sustainedFirst : ℕ) (c : Collected) (i : Interval) :
    Collected where
  sorted := if longFirst < i.index then c.sorted ++ [i] else c.sorted
  liveTotal := if liveFirst < i.index then c.liveTotal + i.ms else c.liveTotal
  sustainedTotal := if sustainedFirst < i.index then c.sustainedTotal + i.ms else c.sustainedTotal

/-- The counters and results of the second loop. -/
structure Ranked where
  longRank : ℕ := 0
  sustainedRank : ℕ := 0
  tailRank : ℕ := 0
  longSlowTotal : ℚ := 0
  sustainedSlowTotal : ℚ := 0
  median : ℚ := 0
  p95 : Option ℚ := none
  p99 : Option ℚ := none

/-- The windows the second loop reads: where they start and how many intervals they have. -/
structure Windows where
  sustainedFirst : ℕ
  tailFirst : ℕ
  longCount : ℕ
  sustainedCount : ℕ
  tailCount : ℕ

def Ranked.add (w : Windows) (r : Ranked) (i : Interval) : Ranked :=
  let longRank := r.longRank + 1
  let inSustained := w.sustainedFirst < i.index
  let sustainedRank := if inSustained then r.sustainedRank + 1 else r.sustainedRank
  let inTail := w.tailFirst < i.index
  let tailRank := if inTail then r.tailRank + 1 else r.tailRank
  { longRank := longRank
    sustainedRank := sustainedRank
    tailRank := tailRank
    longSlowTotal :=
      if w.longCount - rank w.longCount (1 / 100) < longRank then r.longSlowTotal + i.ms
      else r.longSlowTotal
    sustainedSlowTotal :=
      if inSustained ∧ w.sustainedCount - rank w.sustainedCount (1 / 100) < sustainedRank then
        r.sustainedSlowTotal + i.ms
      else r.sustainedSlowTotal
    median := if inTail ∧ tailRank = rank w.tailCount (1 / 2) then i.ms else r.median
    p95 := if inTail ∧ tailRank = rank w.tailCount (95 / 100) then some i.ms else r.p95
    p99 := if inTail ∧ tailRank = rank w.tailCount (99 / 100) then some i.ms else r.p99 }

/-- `publish_live`. -/
def publishLive (result : FrameMetrics ℚ) (total : ℚ) (liveCount age newest : ℕ) :
    FrameMetrics ℚ :=
  if liveCount = 0 then result
  else
    { result with
      frameTimeMs := some (total / (liveCount : ℚ))
      fps := some (1000 / (total / (liveCount : ℚ)))
      quality := .good
      reason := .none
      ageNs := age
      newestPresentNs := newest }

@[simp] theorem publishLive_p95Ms (result : FrameMetrics ℚ) (total : ℚ) (liveCount age newest : ℕ) :
    (publishLive result total liveCount age newest).p95Ms = result.p95Ms := by
  unfold publishLive; split <;> rfl

@[simp] theorem publishLive_p99Ms (result : FrameMetrics ℚ) (total : ℚ) (liveCount age newest : ℕ) :
    (publishLive result total liveCount age newest).p99Ms = result.p99Ms := by
  unfold publishLive; split <;> rfl

/-- The statistics when there is a history: one sort, and a pass over it. -/
def historyStatistics (presents : List PresentTimestamp) (newest age liveFirst longFirst : ℕ)
    (w : Windows) : FrameMetrics ℚ :=
  let c := ((intervalsFrom 1 presents).drop (min liveFirst longFirst)).foldl
    (Collected.add liveFirst longFirst w.sustainedFirst) {}
  let sorted := Ranks.sortBy Interval.ms c.sorted
  let r := sorted.foldl (Ranked.add w) {}
  let liveCount := presents.length - 1 - liveFirst
  let live := publishLive { p95Ms := r.p95, p99Ms := r.p99 } c.liveTotal liveCount age newest
  let sustainedSlow := (rank w.sustainedCount (1 / 100) : ℚ)
  let longSlow := (rank w.longCount (1 / 100) : ℚ)
  let stutterLimit := max 50 (r.median * 2)
  { live with
    averageFps :=
      if w.sustainedCount ≠ 0 then some (1000 / (c.sustainedTotal / (w.sustainedCount : ℚ)))
      else none
    sustainedOnePercentLowFps :=
      if w.sustainedCount ≠ 0 then some (1000 / (r.sustainedSlowTotal / sustainedSlow)) else none
    onePercentLowFps := some (1000 / (r.longSlowTotal / longSlow))
    stutterCount :=
      if w.tailCount ≠ 0 then
        sorted.countP fun i => decide (w.tailFirst < i.index) && decide (stutterLimit < i.ms)
      else 0 }

/-- The statistics of a list that ends at `newest`. -/
def windowStatistics (presents : List PresentTimestamp)
    (newest nowNs staleAfterNs notBeforeNs historyBoundary : ℕ) : FrameMetrics ℚ :=
  let intervalCount := presents.length - 1
  let liveFirst := firstIndex presents newest liveWindowNs notBeforeNs
  let longFirst := firstIndex presents newest longestWindowNs historyBoundary
  let sustainedFirst := firstIndex presents newest sustainedWindowNs historyBoundary
  let tailFirst := firstIndex presents newest tailWindowNs historyBoundary
  let longCount := intervalCount - longFirst
  let liveCount := intervalCount - liveFirst
  let sustainedCount := intervalCount - sustainedFirst
  let tailCount := intervalCount - tailFirst
  let age := ageOf newest nowNs
  if Stale newest nowNs staleAfterNs then
    -- a live window of one present stays without samples, whatever the longer windows hold
    if liveCount ≠ 0 then { reason := .stale, ageNs := age, newestPresentNs := newest } else {}
  else if longCount = 0 then
    let total := ((intervalsFrom 1 presents).drop liveFirst).foldl (fun t i => t + i.ms) 0
    publishLive {} total liveCount age newest
  else
    historyStatistics presents newest age liveFirst longFirst
      ⟨sustainedFirst, tailFirst, longCount, sustainedCount, tailCount⟩

/-- `aggregate_windows`. -/
def aggregateWindows (presents : List PresentTimestamp) (nowNs staleAfterNs notBeforeNs : ℕ)
    (statisticsBoundary : Option ℕ) : FrameMetrics ℚ :=
  match presents, presents.getLast? with
  | _ :: _ :: _, some last =>
    windowStatistics presents last.monotonicNs nowNs staleAfterNs notBeforeNs
      (max notBeforeNs (statisticsBoundary.getD uint64Max))
  | _, _ => {}

/-! ## 3. The drain -/

/-- A swapchain's presents. -/
structure Stream (identity : SampleIdentity) where
  queue : PresentQueue identity
  diagnosticGeneration : ℕ := 0
  boundaryNs : ℕ := 0

/-- `PresentSource::DrainRequest`. -/
structure DrainRequest where
  generation : ℕ := 0
  nowNs : ℕ := 0
  staleAfterNs : ℕ := 0
  notBeforeNs : ℕ := 0
deriving DecidableEq

/-- `PresentSource`.  `streams_` is an association list. -/
structure PresentSource where
  identity : SampleIdentity
  running : Bool := false
  schemaFailure : Bool := false
  uncountedLoss : Bool := false
  reportedLoss : ℕ := 0
  lossBoundaryNs : ℕ := 0
  streams : List (ℕ × Stream identity) := []
  drainGeneration : ℕ := 0
  statisticsNotBeforeNs : Option ℕ := some 0
  capacity : ℕ := 2
  diagnosticGeneration : ℕ := 0
  lastStream : Option ℕ := none
  pendingDefaultDrain : Option DrainRequest := none
  pendingBoundedDrain : Option DrainRequest := none
  latestDefaultDrain : Option (FrameMetrics ℚ) := none
  latestBoundedDrain : Option (FrameMetrics ℚ) := none
  latestBoundedNotBeforeNs : ℕ := 0
  drainActive : Bool := false
  drainWorkerFailed : Bool := false
  /-- The constructor raises the capacity to two. -/
  two_le_capacity : 2 ≤ capacity := by decide

/-- The stream a drain has selected so far, with what it is compared by. -/
structure Selected (identity : SampleIdentity) where
  queue : PresentQueue identity
  fresh : Bool
  fastCount : ℕ
  newest : ℕ
  streamId : ℕ

/-- Whether the candidate takes the place of what is selected. -/
def Selected.supersedes {identity : SampleIdentity} (candidate : Selected identity)
    (selected : Selected identity) : Bool :=
  (candidate.fresh && !selected.fresh) ||
    (candidate.fresh == selected.fresh &&
      (decide (selected.fastCount < candidate.fastCount) ||
        (candidate.fastCount == selected.fastCount &&
          (decide (selected.newest < candidate.newest) ||
            (candidate.newest == selected.newest &&
              decide (candidate.streamId < selected.streamId))))))

/-- One round of the selection. -/
def consider {identity : SampleIdentity} (nowNs staleAfterNs notBeforeNs : ℕ)
    (selected : Option (Selected identity)) (entry : ℕ × Stream identity) :
    Option (Selected identity) :=
  match entry.2.queue.newest with
  | none => selected
  | some newest =>
    if newest < notBeforeNs then selected
    else
      let first := lowerBound entry.2.queue.presents (windowCutoff newest liveWindowNs notBeforeNs)
      let candidate : Selected identity :=
        { queue := entry.2.queue
          fresh := decide (newest ≤ nowNs) && decide (nowNs - newest ≤ staleAfterNs)
          fastCount := entry.2.queue.presents.length - first
          newest := newest
          streamId := entry.1 }
      match selected with
      | none => some candidate
      | some old => if candidate.supersedes old then some candidate else some old

/-- The presents a drain copies out of the selected queue. -/
def copied {identity : SampleIdentity} (queue : PresentQueue identity) (notBeforeNs : ℕ)
    (statisticsBoundary : Option ℕ) : List PresentTimestamp :=
  match queue.newest with
  | none => []
  | some newest =>
    let cutoff := windowCutoff newest longestWindowNs notBeforeNs
    let liveCutoff := windowCutoff newest liveWindowNs notBeforeNs
    let copyCutoff := min liveCutoff (max cutoff (statisticsBoundary.getD uint64Max))
    queue.presents.drop (lowerBound queue.presents copyCutoff)

namespace PresentSource

def selected (s : PresentSource) (nowNs staleAfterNs notBeforeNs : ℕ) :
    Option (Selected s.identity) :=
  s.streams.foldl (consider nowNs staleAfterNs notBeforeNs) none

/-- A selected stream whose longest window begins after every loss. -/
def afterLosses (s : PresentSource) (notBeforeNs : ℕ) : Option (Selected s.identity) → Bool
  | none => false
  | some c => decide (s.lossBoundaryNs < windowCutoff c.newest longestWindowNs notBeforeNs)

/-- `drain`. -/
def drain (s : PresentSource) (nowNs staleAfterNs notBeforeNs : ℕ) : FrameMetrics ℚ :=
  if ¬ s.running ∨ s.schemaFailure then { reason := .sourceFailure }
  else
    let selected := s.selected nowNs staleAfterNs notBeforeNs
    let clean := s.afterLosses notBeforeNs selected
    let uncountedLoss := s.uncountedLoss && !clean
    let longTerm := (selected.map fun c =>
      copied c.queue notBeforeNs s.statisticsNotBeforeNs).getD []
    let result :=
      aggregateWindows longTerm nowNs staleAfterNs notBeforeNs s.statisticsNotBeforeNs
    let lossCount := result.lossCount + (if clean then 0 else s.reportedLoss)
    { result with
      lossCount := lossCount
      sourceGeneration := s.drainGeneration
      streamId := (selected.map (·.streamId)).getD 0
      quality :=
        if result.fps.isSome ∧ (0 < lossCount ∨ uncountedLoss) then .degraded
        else result.quality }

/-! ## 4. Losses and presents -/

/-- `invalidate_drain_locked`. -/
def invalidate (s : PresentSource) : PresentSource :=
  { s with
    drainGeneration := (s.drainGeneration + 1) % 2 ^ 64
    pendingDefaultDrain := none
    pendingBoundedDrain := none
    latestDefaultDrain := none
    latestBoundedDrain := none
    latestBoundedNotBeforeNs := 0 }

/-- What `start`, `stop`, `bind` and `reset_statistics` all forget. -/
def forget (s : PresentSource) (identity : SampleIdentity) : PresentSource :=
  { s with
    identity := identity
    streams := []
    reportedLoss := 0
    lossBoundaryNs := 0
    uncountedLoss := false
    diagnosticGeneration := (s.diagnosticGeneration + 1) % 2 ^ 64
    lastStream := none }

def start (s : PresentSource) : PresentSource :=
  { (s.forget s.identity).invalidate with schemaFailure := false, running := true }

def stop (s : PresentSource) : PresentSource :=
  { (s.forget s.identity).invalidate with running := false }

def bind (s : PresentSource) (identity : SampleIdentity) : PresentSource :=
  { (s.forget identity).invalidate with schemaFailure := false }

/-- `reset_statistics`. -/
def resetStatistics (s : PresentSource) : PresentSource := (s.forget s.identity).invalidate

/-- An entry of the next diagnostic generation. -/
def restamped (s : PresentSource) (entry : ℕ × Stream s.identity) : ℕ × Stream s.identity :=
  (entry.1, { entry.2 with diagnosticGeneration := (s.diagnosticGeneration + 1) % 2 ^ 64 })

/-- `record_loss_locked`: the boundary rises to the loss and to every present a stream holds. -/
def recordLossLocked (s : PresentSource) (timestampNs count : ℕ) (incomplete : Bool) :
    PresentSource :=
  let reported := s.reportedLoss + min count (uint64Max - s.reportedLoss)
  invalidate
    { s with
      reportedLoss := if incomplete ∧ reported < uint64Max then reported + 1 else reported
      lossBoundaryNs := s.streams.foldl (fun boundary entry =>
        (entry.2.queue.newest.map (max boundary)).getD boundary)
          (max s.lossBoundaryNs timestampNs)
      diagnosticGeneration := (s.diagnosticGeneration + 1) % 2 ^ 64
      streams := s.streams.map s.restamped }

/-- Whether `record_loss` records. -/
def recordsLoss (s : PresentSource) (identity : SampleIdentity) (count : ℕ) (uncounted : Bool) :
    Bool :=
  s.running && !s.schemaFailure && decide (identity = s.identity) &&
    (decide (count ≠ 0) || uncounted)

/-- `record_loss`. -/
def recordLoss (s : PresentSource) (identity : SampleIdentity) (timestampNs count : ℕ)
    (uncounted : Bool) : PresentSource :=
  if s.recordsLoss identity count uncounted then
    recordLossLocked { s with uncountedLoss := s.uncountedLoss || uncounted } timestampNs count
      false
  else s

/-- The metrics without what has a history. -/
def stripped (live : FrameMetrics ℚ) : FrameMetrics ℚ :=
  { live with
    averageFps := none
    sustainedOnePercentLowFps := none
    onePercentLowFps := none
    p95Ms := none
    p99Ms := none
    stutterCount := 0 }

/-- `set_statistics_boundary`. -/
def setStatisticsBoundary (s : PresentSource) (notBeforeNs : Option ℕ) : PresentSource :=
  if s.statisticsNotBeforeNs = notBeforeNs then s
  else
    { ({ s with statisticsNotBeforeNs := notBeforeNs } : PresentSource).invalidate with
      latestDefaultDrain := s.latestDefaultDrain.map stripped }

end PresentSource

/-- `PresentEvent`. -/
structure PresentEvent where
  identity : SampleIdentity := {}
  monotonicNs : ℕ := 0
  schemaVersion : ℕ := 0
  completed : Bool := false
  eventsLost : ℕ := 0
  streamId : ℕ := 0
  bounded : monotonicNs < 2 ^ 64 := by decide

namespace PresentQueue

variable {identity : SampleIdentity}

/-- Where `ingest` inserts. -/
def position (q : PresentQueue identity) (ns : ℕ) : ℕ :=
  match q.newest with
  | none => q.presents.length
  | some newest => if newest < ns then q.presents.length else lowerBound q.presents ns

theorem newest_eq_none {q : PresentQueue identity} : q.newest = none ↔ q.presents = [] := by
  simp [newest]

/-- The newest present is the latest. -/
theorem le_newest {q : PresentQueue identity} {newest : ℕ} (h : q.newest = some newest) :
    ∀ p ∈ q.presents, p.monotonicNs ≤ newest := by
  obtain ⟨last, hlast, rfl⟩ := Option.map_eq_some_iff.mp h
  obtain ⟨front, hfront⟩ := List.getLast?_eq_some_iff.mp hlast
  have hinc := q.increasing
  intro p hp
  rw [hfront] at hinc hp
  rcases List.mem_append.mp hp with hp | hp
  · exact ((List.pairwise_append.mp hinc).2.2 p hp last (List.mem_singleton_self last)).le
  · rw [List.mem_singleton.mp hp]

theorem position_eq (q : PresentQueue identity) (ns : ℕ) :
    q.position ns = lowerBound q.presents ns := by
  have hall : (∀ p ∈ q.presents, p.monotonicNs < ns) →
      lowerBound q.presents ns = q.presents.length := by
    intro h
    refine List.findIdx_eq_length_of_false fun p hp => ?_
    exact decide_eq_false (not_le.mpr (h p hp))
  unfold position
  split
  · rename_i hnone
    rw [hall]
    simp [newest_eq_none.mp hnone]
  · rename_i newest hsome
    split
    · rename_i hlt
      exact (hall fun p hp => (le_newest hsome p hp).trans_lt hlt).symm
    · rfl

/-- The presents in front of the position are earlier. -/
theorem lt_of_mem_take {presents : List PresentTimestamp} {ns : ℕ} {p : PresentTimestamp}
    (h : p ∈ presents.take (lowerBound presents ns)) : p.monotonicNs < ns := by
  obtain ⟨i, hi, rfl⟩ := List.mem_iff_getElem.mp h
  rw [List.length_take] at hi
  rw [List.getElem_take]
  have hnot := @List.not_of_lt_findIdx _ presents
    (p := fun p => decide (ns ≤ p.monotonicNs)) (i := i) (by
      have : i < lowerBound presents ns := by omega
      exact this)
  simpa using hnot

/-- The presents behind the position are later, unless the time itself is there. -/
theorem lt_of_mem_drop (q : PresentQueue identity) {ns : ℕ}
    (hfree : (q.presents[lowerBound q.presents ns]?).map (·.monotonicNs) ≠ some ns)
    {p : PresentTimestamp} (h : p ∈ q.presents.drop (lowerBound q.presents ns)) :
    ns < p.monotonicNs := by
  have hle : ∀ r ∈ q.presents.drop (lowerBound q.presents ns), ns ≤ r.monotonicNs := by
    rw [drop_lowerBound q.increasing]
    intro r hr
    exact of_decide_eq_true (List.mem_filter.mp hr).2
  have hinc : (q.presents.drop (lowerBound q.presents ns)).Pairwise
      fun p q => p.monotonicNs < q.monotonicNs := q.increasing.sublist (List.drop_sublist _ _)
  have hhead : q.presents[lowerBound q.presents ns]? =
      (q.presents.drop (lowerBound q.presents ns)).head? := by
    rw [List.head?_drop]
  rw [hhead] at hfree
  revert h hle hinc hfree
  generalize q.presents.drop (lowerBound q.presents ns) = behind
  intro hfree h hle hinc
  cases behind with
  | nil => cases h
  | cons first rest =>
    have hfirst : ns < first.monotonicNs := by
      refine lt_of_le_of_ne (hle first List.mem_cons_self) fun heq => hfree ?_
      rw [List.head?_cons, Option.map_some, heq]
    rcases List.mem_cons.mp h with rfl | h
    · exact hfirst
    · exact hfirst.trans ((List.pairwise_cons.mp hinc).1 p h)

/-- A present inserted in order; `none` when the time is already there. -/
def insert (q : PresentQueue identity) (ns : ℕ) (hns : ns < 2 ^ 64) :
    Option (PresentQueue identity) :=
  if hfree : (q.presents[q.position ns]?).map (·.monotonicNs) = some ns then none
  else some
    { presents := q.presents.take (q.position ns) ++
        ⟨identity, ns⟩ :: q.presents.drop (q.position ns)
      increasing := by
        rw [position_eq] at hfree ⊢
        refine List.pairwise_append.mpr ⟨q.increasing.sublist (List.take_sublist _ _), ?_, ?_⟩
        · exact List.pairwise_cons.mpr ⟨fun p hp => lt_of_mem_drop q hfree hp,
            q.increasing.sublist (List.drop_sublist _ _)⟩
        · intro p hp r hr
          have hearly := lt_of_mem_take hp
          rcases List.mem_cons.mp hr with rfl | hr
          · exact hearly
          · exact hearly.trans (lt_of_mem_drop q hfree hr)
      same := by
        intro p hp
        rcases List.mem_append.mp hp with hp | hp
        · exact q.same p (List.mem_of_mem_take hp)
        · rcases List.mem_cons.mp hp with rfl | hp
          · rfl
          · exact q.same p (List.mem_of_mem_drop hp)
      bounded := by
        intro p hp
        rcases List.mem_append.mp hp with hp | hp
        · exact q.bounded p (List.mem_of_mem_take hp)
        · rcases List.mem_cons.mp hp with rfl | hp
          · exact hns
          · exact q.bounded p (List.mem_of_mem_drop hp) }

/-- The queue without its oldest presents, down to the capacity. -/
def keepNewest (q : PresentQueue identity) (capacity : ℕ) : PresentQueue identity where
  presents := q.presents.drop (q.presents.length - capacity)
  increasing := q.increasing.sublist (List.drop_sublist _ _)
  same p hp := q.same p (List.mem_of_mem_drop hp)
  bounded p hp := q.bounded p (List.mem_of_mem_drop hp)

end PresentQueue

namespace PresentSource

def maximumStreams : ℕ := 16

/-- One round of the search for the stream that gives way. -/
def older {identity : SampleIdentity} (lastStream : Option ℕ)
    (oldest : Option (ℕ × Stream identity)) (candidate : ℕ × Stream identity) :
    Option (ℕ × Stream identity) :=
  if lastStream = some candidate.1 then oldest
  else
    match oldest with
    | none => some candidate
    | some old =>
      match candidate.2.queue.newest, old.2.queue.newest with
      | none, _ => some candidate
      | some newest, some oldNewest =>
        if newest < oldNewest then some candidate else some old
      | some _, none => some old

/-- The stream that gives way to a new one: of those that did not present last, the one whose
newest present is the oldest. -/
def oldestInactive (s : PresentSource) : Option (ℕ × Stream s.identity) :=
  s.streams.foldl (older s.lastStream) none

/-- The streams with room for one more; `none` when there is none to give way. -/
def withRoom (s : PresentSource) : Option (List (ℕ × Stream s.identity)) :=
  if maximumStreams ≤ s.streams.length then
    s.oldestInactive.map fun old => s.streams.filter fun entry => entry.1 ≠ old.1
  else some s.streams

/-- The source with a stream for the event. -/
def withStream (s : PresentSource) (streamId timestampNs : ℕ) : Option PresentSource :=
  match s.streams.lookup streamId with
  | some _ => some s
  | none => s.withRoom.map fun streams =>
    let generation := (s.diagnosticGeneration + 1) % 2 ^ 64
    { s with
      diagnosticGeneration := generation
      streams := streams ++ [(streamId,
        { queue := .empty
          diagnosticGeneration := generation
          boundaryNs := if s.lastStream.isSome then timestampNs else 0 })] }

/-- The entry of the id with another queue. -/
def requeued {identity : SampleIdentity} (id : ℕ) (queue : PresentQueue identity)
    (entry : ℕ × Stream identity) : ℕ × Stream identity :=
  if entry.1 = id then (entry.1, { entry.2 with queue := queue }) else entry

/-- The present joins its stream. -/
def admitEvent (s : PresentSource) (event : PresentEvent) : PresentSource × Bool :=
  match s.streams.lookup event.streamId with
  | none => (s, false)
  | some stream =>
    match stream.queue.insert event.monotonicNs event.bounded with
    | none => ({ s with lastStream := some event.streamId }, false)
    | some queue =>
      ({ s with
          lastStream := some event.streamId
          streams := s.streams.map (requeued event.streamId (queue.keepNewest s.capacity)) },
        true)

/-- The event carries a loss that `ingest` records. -/
def carriesLoss (s : PresentSource) (event : PresentEvent) : Bool :=
  s.running && decide (event.identity = s.identity) && decide (event.schemaVersion = 1) &&
    (!event.completed || decide (event.eventsLost ≠ 0))

/-- The part of `ingest` behind the schema check. -/
def ingestPresent (s : PresentSource) (event : PresentEvent) : PresentSource × Bool :=
  let s := if s.carriesLoss event then
    s.recordLossLocked event.monotonicNs event.eventsLost (!event.completed) else s
  if event.completed = false then (s, false)
  else
    match s.withStream event.streamId event.monotonicNs with
    | none => (s, false)
    | some s => s.admitEvent event

/-- `ingest`. -/
def ingest (s : PresentSource) (event : PresentEvent) : PresentSource × Bool :=
  if s.running = false ∨ event.identity ≠ s.identity then (s, false)
  else if event.schemaVersion ≠ 1 then
    (invalidate { s with schemaFailure := true, streams := [] }, false)
  else s.ingestPresent event

/-! ## 5. A fixed interval -/

/-- The presents between two times. -/
def between (presents : List PresentTimestamp) (beginNs endNs : ℕ) : List PresentTimestamp :=
  (presents.drop (lowerBound presents beginNs)).takeWhile fun p => decide (p.monotonicNs ≤ endNs)

/-- What `measure_window` has selected so far. -/
structure Measured (identity : SampleIdentity) where
  stream : Option (Stream identity) := none
  presents : List PresentTimestamp := []
  streamId : ℕ := 0
  generation : ℕ := 0

/-- One round of the selection. -/
def measure {identity : SampleIdentity} (beginNs endNs : ℕ) (m : Measured identity)
    (entry : ℕ × Stream identity) : Measured identity :=
  let presents := between entry.2.queue.presents beginNs endNs
  if m.presents.length < presents.length ∨
      (presents.length = m.presents.length ∧ entry.1 < m.streamId) then
    ⟨some entry.2, presents, entry.1, entry.2.diagnosticGeneration⟩
  else m

/-- The losses reach into an interval that begins at the time. -/
def lossSince (s : PresentSource) (beginNs : ℕ) : Bool :=
  (decide (s.reportedLoss ≠ 0) || s.uncountedLoss) && decide (beginNs ≤ s.lossBoundaryNs)

/-- `measure_window`. -/
def measureWindow (s : PresentSource) (beginNs endNs : ℕ) : Window ℚ :=
  if s.running = false ∨ s.schemaFailure ∨ endNs ≤ beginNs ∨ s.lossSince beginNs then
    { generation := s.diagnosticGeneration }
  else
    let m := s.streams.foldl (measure beginNs endNs) { generation := s.diagnosticGeneration }
    let window : Window ℚ :=
      { streamId := m.streamId, generation := m.generation, count := m.presents.length }
    match m.stream, m.presents, m.presents.getLast? with
    | some stream, first :: _ :: _, some last =>
      if beginNs ≤ stream.boundaryNs ∧ stream.boundaryNs ≤ endNs then window
      else
        let spanNs := last.monotonicNs - first.monotonicNs
        let metrics := aggregatePresents m.presents s.identity endNs 100000000
        { window with
          spanNs := spanNs
          metrics := metrics
          complete := decide (first.monotonicNs - beginNs ≤ 100000000 ∧
            endNs - last.monotonicNs ≤ 100000000 ∧
            (endNs - beginNs) * 95 % 2 ^ 64 / 100 ≤ spanNs ∧ metrics.quality = .good) }
    | _, _, _ => window

end PresentSource

end Kf2Optimizer.Telemetry
