/-
# Background drains

`request_drain` leaves a request in one of two slots, the worker takes it, computes the drain
under the lock and publishes it under another, and `latest_drain` reads what was published.
Between these steps every other call may come.  A call that invalidates drains empties the slots
and moves `drain_generation_` on, and the worker publishes only when the generation is still that
of its request.

The counter `epoch` below is the generation without its 64 bits.  `FreshResult` is what a caller
of `latest_drain` can rely on: the result was computed since the last invalidation, for exactly
the time it asks for, or is the copy `set_statistics_boundary` made of one, or says that the
worker failed.  `latestDrain_fresh` has it for every run in which fewer than 2^64 invalidations
come between a request's being taken and its publication; with 2^64 of them the generation is
the old one again (`latestDrain_wrapped`).
-/
import Kf2Optimizer.Telemetry.PresentLosses

namespace Kf2Optimizer.Telemetry

open StepMachine

/-! ## 1. The worker -/

/-- Where `drain_worker` stands between two critical sections. -/
inductive DrainPhase
  | waiting
  | taken (request : DrainRequest)
  | computed (request : DrainRequest) (metrics : FrameMetrics ℚ)
  /-- The drain or its publication threw. -/
  | failed (request : DrainRequest)
  /-- The worker itself has failed. -/
  | ended
deriving DecidableEq

/-- What a failure publishes. -/
def sourceFailure : FrameMetrics ℚ := { reason := .sourceFailure }

namespace PresentSource

/-- `request_drain`. -/
def requestDrain (s : PresentSource) (nowNs staleAfterNs notBeforeNs : ℕ) : PresentSource :=
  let request : DrainRequest := ⟨s.drainGeneration, nowNs, staleAfterNs, notBeforeNs⟩
  if s.drainWorkerFailed then
    if notBeforeNs = 0 then { s with latestDefaultDrain := some sourceFailure }
    else
      { s with latestBoundedDrain := some sourceFailure, latestBoundedNotBeforeNs := notBeforeNs }
  else if notBeforeNs = 0 then { s with pendingDefaultDrain := some request }
  else { s with pendingBoundedDrain := some request }

/-- `latest_drain`. -/
def latestDrain (s : PresentSource) (notBeforeNs : ℕ) : Option (FrameMetrics ℚ) :=
  if notBeforeNs = 0 then s.latestDefaultDrain
  else if s.latestBoundedNotBeforeNs ≠ notBeforeNs then none
  else s.latestBoundedDrain

/-- The worker takes a request: a bounded one first. -/
def takeRequest (s : PresentSource) : Option (DrainRequest × PresentSource) :=
  match s.pendingBoundedDrain, s.pendingDefaultDrain with
  | some request, _ => some (request, { s with pendingBoundedDrain := none, drainActive := true })
  | none, some request =>
    some (request, { s with pendingDefaultDrain := none, drainActive := true })
  | none, none => none

/-- The worker publishes a result for its request, when the generation is still that of the
request. -/
def publish (s : PresentSource) (request : DrainRequest) (metrics : FrameMetrics ℚ) :
    PresentSource :=
  if request.generation = s.drainGeneration then
    if request.notBeforeNs = 0 then
      { s with drainActive := false, latestDefaultDrain := some metrics }
    else
      { s with
        drainActive := false
        latestBoundedDrain := some metrics
        latestBoundedNotBeforeNs := request.notBeforeNs }
  else { s with drainActive := false }

/-- The outermost handler of the worker. -/
def workerFailed (s : PresentSource) : PresentSource :=
  { s with
    drainWorkerFailed := true
    drainActive := false
    pendingDefaultDrain := none
    pendingBoundedDrain := none
    latestDefaultDrain := some sourceFailure
    latestBoundedDrain := some sourceFailure
    latestBoundedNotBeforeNs := 0 }

/-- The call invalidates drains. -/
def invalidates (s : PresentSource) : PresentOp → Bool
  | .start | .stop | .bind _ | .resetStatistics => true
  | .ingest event =>
    s.carriesLoss event || (s.running && decide (event.identity = s.identity) &&
      decide (event.schemaVersion ≠ 1))
  | .recordLoss identity _ count uncounted => s.recordsLoss identity count uncounted
  | .setStatisticsBoundary notBeforeNs => decide (s.statisticsNotBeforeNs ≠ notBeforeNs)
  | .rehash _ => false

end PresentSource

/-! ## 2. The calls and the worker together -/

/-- A source with its worker.  The last two count invalidations: all of them, and those before
the worker took its request. -/
structure DrainSystem where
  source : PresentSource
  phase : DrainPhase := .waiting
  epoch : ℕ := 0
  takenEpoch : ℕ := 0

/-- A call, or a step of the worker. -/
inductive DrainStep
  | call (op : PresentOp)
  | request (nowNs staleAfterNs notBeforeNs : ℕ)
  | take
  | compute
  /-- The drain or its publication throws. -/
  | throws
  | publish
  /-- Not even the failure can be published. -/
  | abandon
  /-- Waiting for a request throws. -/
  | fail

namespace DrainSystem

def step (d : DrainSystem) : DrainStep → DrainSystem
  | .call op =>
    { d with
      source := d.source.apply op
      epoch := if d.source.invalidates op then d.epoch + 1 else d.epoch }
  | .request nowNs staleAfterNs notBeforeNs =>
    { d with source := d.source.requestDrain nowNs staleAfterNs notBeforeNs }
  | .take =>
    match d.phase, d.source.takeRequest with
    | .waiting, some (request, source) =>
      { d with source := source, phase := .taken request, takenEpoch := d.epoch }
    | _, _ => d
  | .compute =>
    match d.phase with
    | .taken request =>
      { d with
        phase := .computed request
          (d.source.drain request.nowNs request.staleAfterNs request.notBeforeNs) }
    | _ => d
  | .throws =>
    match d.phase with
    | .taken request | .computed request _ => { d with phase := .failed request }
    | _ => d
  | .publish =>
    match d.phase with
    | .computed request metrics =>
      { d with source := d.source.publish request metrics, phase := .waiting }
    | .failed request =>
      { d with source := d.source.publish request sourceFailure, phase := .waiting }
    | _ => d
  | .abandon =>
    match d.phase with
    | .failed _ => { d with phase := .waiting }
    | _ => d
  | .fail =>
    match d.phase with
    | .waiting => { d with source := d.source.workerFailed, phase := .ended }
    | _ => d

/-- A new source with its worker. -/
def new (identity : SampleIdentity) (capacity : ℕ) : DrainSystem :=
  { source := .new identity capacity }

/-- A source and its worker after a run. -/
def after (identity : SampleIdentity) (capacity : ℕ) (steps : List DrainStep) : DrainSystem :=
  exec step (new identity capacity) steps

end DrainSystem

/-- A publication comes before the generation is back where the request was taken. -/
def InTime (d : DrainSystem) : DrainStep → Prop
  | .publish => d.epoch < d.takenEpoch + 2 ^ 64
  | _ => True

instance (d : DrainSystem) : ∀ c : DrainStep, Decidable (InTime d c)
  | .publish => inferInstanceAs (Decidable (_ < _))
  | .call _ | .request _ _ _ | .take | .compute | .throws | .abandon | .fail => isTrue trivial

/-- The step can write that the source has failed. -/
def DrainStep.Reports : DrainStep → Prop
  | .publish | .fail | .request _ _ _ => True
  | _ => False

/-- What a result of `latest_drain` for the time is, after the run. -/
inductive FreshResult (identity : SampleIdentity) (capacity : ℕ) (steps : List DrainStep)
    (notBeforeNs : ℕ) : FrameMetrics ℚ → Prop
  /-- A drain computed in the run, with no invalidation since. -/
  | computed (earlier later : List DrainStep) (nowNs staleAfterNs : ℕ)
      (hsplit : steps = earlier ++ later)
      (hepoch : (DrainSystem.after identity capacity earlier).epoch =
        (DrainSystem.after identity capacity steps).epoch) :
      FreshResult identity capacity steps notBeforeNs
        ((DrainSystem.after identity capacity earlier).source.drain nowNs staleAfterNs notBeforeNs)
  /-- The copy without a history that `set_statistics_boundary` made, with no invalidation
  since. -/
  | copied (earlier later : List DrainStep) (boundary : Option ℕ) (live : FrameMetrics ℚ)
      (hsplit : steps = earlier ++ .call (.setStatisticsBoundary boundary) :: later)
      (hlive : (DrainSystem.after identity capacity earlier).source.latestDrain 0 = some live)
      (hepoch : (DrainSystem.after identity capacity earlier).epoch + 1 =
        (DrainSystem.after identity capacity steps).epoch)
      (hdefault : notBeforeNs = 0) :
      FreshResult identity capacity steps notBeforeNs (PresentSource.stripped live)
  /-- A failure that was reported, with no invalidation since. -/
  | failure (earlier later : List DrainStep) (report : DrainStep) (hreport : report.Reports)
      (hsplit : steps = earlier ++ report :: later)
      (hepoch : (DrainSystem.after identity capacity earlier).epoch =
        (DrainSystem.after identity capacity steps).epoch) :
      FreshResult identity capacity steps notBeforeNs sourceFailure

/-! ## 3. What the calls do to the slots -/

namespace PresentSource

/-- The slots and the generation are as they were. -/
structure SameDrains (s s' : PresentSource) : Prop where
  drainGeneration : s'.drainGeneration = s.drainGeneration
  pendingDefaultDrain : s'.pendingDefaultDrain = s.pendingDefaultDrain
  pendingBoundedDrain : s'.pendingBoundedDrain = s.pendingBoundedDrain
  latestDefaultDrain : s'.latestDefaultDrain = s.latestDefaultDrain
  latestBoundedDrain : s'.latestBoundedDrain = s.latestBoundedDrain
  latestBoundedNotBeforeNs : s'.latestBoundedNotBeforeNs = s.latestBoundedNotBeforeNs

/-- The slots are empty, but perhaps the default result, and the generation has moved on. -/
structure Invalidated (s s' : PresentSource) : Prop where
  drainGeneration : s'.drainGeneration = (s.drainGeneration + 1) % 2 ^ 64
  pendingDefaultDrain : s'.pendingDefaultDrain = none
  pendingBoundedDrain : s'.pendingBoundedDrain = none
  latestBoundedDrain : s'.latestBoundedDrain = none

theorem SameDrains.refl (s : PresentSource) : SameDrains s s := ⟨rfl, rfl, rfl, rfl, rfl, rfl⟩

theorem SameDrains.trans {s s' s'' : PresentSource} (h : SameDrains s s')
    (h' : SameDrains s' s'') : SameDrains s s'' := by
  constructor
  · rw [h'.drainGeneration, h.drainGeneration]
  · rw [h'.pendingDefaultDrain, h.pendingDefaultDrain]
  · rw [h'.pendingBoundedDrain, h.pendingBoundedDrain]
  · rw [h'.latestDefaultDrain, h.latestDefaultDrain]
  · rw [h'.latestBoundedDrain, h.latestBoundedDrain]
  · rw [h'.latestBoundedNotBeforeNs, h.latestBoundedNotBeforeNs]

theorem sameDrains_withStream {s s' : PresentSource} {id ns : ℕ}
    (h : s.withStream id ns = some s') : SameDrains s s' := by
  unfold withStream at h
  split at h
  · obtain rfl := Option.some.inj h
    exact .refl s
  · obtain ⟨streams, -, rfl⟩ := Option.map_eq_some_iff.mp h
    exact ⟨rfl, rfl, rfl, rfl, rfl, rfl⟩

theorem sameDrains_admitEvent (s : PresentSource) (event : PresentEvent) :
    SameDrains s (s.admitEvent event).1 := by
  unfold admitEvent
  split
  · exact .refl s
  · split
    · exact ⟨rfl, rfl, rfl, rfl, rfl, rfl⟩
    · exact ⟨rfl, rfl, rfl, rfl, rfl, rfl⟩

/-- Behind its loss an event leaves the slots alone. -/
theorem sameDrains_ingestPresent (s : PresentSource) (event : PresentEvent) :
    SameDrains (s.withLoss event) (s.ingestPresent event).1 := by
  obtain heq | ⟨s', hstream, heq⟩ := s.ingestPresent_cases event
  · rw [heq]
    exact .refl _
  · rw [heq]
    exact (sameDrains_withStream hstream).trans (sameDrains_admitEvent s' event)

/-- A call that does not invalidate leaves the slots alone. -/
theorem sameDrains_apply {s : PresentSource} {op : PresentOp} (h : s.invalidates op = false) :
    SameDrains s (s.apply op) := by
  cases op with
  | start => cases h
  | stop => cases h
  | bind identity => cases h
  | resetStatistics => cases h
  | rehash order => exact ⟨rfl, rfl, rfl, rfl, rfl, rfl⟩
  | setStatisticsBoundary notBeforeNs =>
    have hsame : s.statisticsNotBeforeNs = notBeforeNs := by simpa [invalidates] using h
    rw [apply, setStatisticsBoundary, if_pos hsame]
    exact .refl s
  | recordLoss identity timestampNs count uncounted =>
    have hnot : ¬s.recordsLoss identity count uncounted = true := Bool.not_eq_true _ ▸ h
    rw [apply, recordLoss, if_neg hnot]
    exact .refl s
  | ingest event =>
    rw [invalidates, Bool.or_eq_false_iff] at h
    obtain ⟨hcarries, hversion⟩ := h
    show SameDrains s (s.ingest event).1
    unfold ingest
    by_cases hrefused : s.running = false ∨ event.identity ≠ s.identity
    · rw [if_pos hrefused]
      exact .refl s
    rw [if_neg hrefused]
    simp only [not_or, Bool.not_eq_false, not_not] at hrefused
    have hone : event.schemaVersion = 1 := by
      simpa [hrefused.1, hrefused.2] using hversion
    rw [if_neg (not_not_intro hone)]
    have hloss : s.withLoss event = s := if_neg (by simp [hcarries])
    have hpresent := sameDrains_ingestPresent s event
    rwa [hloss] at hpresent

/-- A call that invalidates empties them; only `set_statistics_boundary` keeps a copy. -/
theorem invalidated_apply {s : PresentSource} {op : PresentOp} (h : s.invalidates op = true) :
    Invalidated s (s.apply op) ∧
      ((s.apply op).latestDefaultDrain = none ∨
        ∃ boundary, op = .setStatisticsBoundary boundary ∧
          (s.apply op).latestDefaultDrain = s.latestDefaultDrain.map stripped) := by
  cases op with
  | start => exact ⟨⟨rfl, rfl, rfl, rfl⟩, .inl rfl⟩
  | stop => exact ⟨⟨rfl, rfl, rfl, rfl⟩, .inl rfl⟩
  | bind identity => exact ⟨⟨rfl, rfl, rfl, rfl⟩, .inl rfl⟩
  | resetStatistics => exact ⟨⟨rfl, rfl, rfl, rfl⟩, .inl rfl⟩
  | rehash order => cases h
  | setStatisticsBoundary notBeforeNs =>
    have hother : ¬s.statisticsNotBeforeNs = notBeforeNs := by simpa [invalidates] using h
    rw [apply, setStatisticsBoundary, if_neg hother]
    exact ⟨⟨rfl, rfl, rfl, rfl⟩, .inr ⟨notBeforeNs, rfl, rfl⟩⟩
  | recordLoss identity timestampNs count uncounted =>
    have hrecords : s.recordsLoss identity count uncounted = true := h
    rw [apply, recordLoss, if_pos hrecords]
    exact ⟨⟨rfl, rfl, rfl, rfl⟩, .inl rfl⟩
  | ingest event =>
    show Invalidated s (s.ingest event).1 ∧ ((s.ingest event).1.latestDefaultDrain = none ∨
      ∃ boundary, PresentOp.ingest event = .setStatisticsBoundary boundary ∧
        (s.ingest event).1.latestDefaultDrain = s.latestDefaultDrain.map stripped)
    have hbound : ¬(s.running = false ∨ event.identity ≠ s.identity) := by
      rintro (hstopped | hother)
      · simp [invalidates, carriesLoss, hstopped] at h
      · simp [invalidates, carriesLoss, hother] at h
    rw [ingest, if_neg hbound]
    by_cases hversion : event.schemaVersion ≠ 1
    · rw [if_pos hversion]
      exact ⟨⟨rfl, rfl, rfl, rfl⟩, .inl rfl⟩
    rw [if_neg hversion]
    have hcarries : s.carriesLoss event = true := by simpa [invalidates, hversion] using h
    have hloss : s.withLoss event =
        s.recordLossLocked event.monotonicNs event.eventsLost (!event.completed) :=
      if_pos hcarries
    have hsame := sameDrains_ingestPresent s event
    rw [hloss] at hsame
    exact ⟨⟨hsame.drainGeneration, hsame.pendingDefaultDrain, hsame.pendingBoundedDrain,
      hsame.latestBoundedDrain⟩, .inl hsame.latestDefaultDrain⟩

end PresentSource

/-! ## 4. What holds after a run -/

variable {identity : SampleIdentity} {capacity : ℕ}

namespace DrainSystem

theorem after_snoc (steps : List DrainStep) (c : DrainStep) :
    after identity capacity (steps ++ [c]) = (after identity capacity steps).step c :=
  exec_snoc _ _ _ _

/-- Only calls invalidate. -/
theorem epoch_step {d : DrainSystem} {c : DrainStep} (h : ∀ op, c ≠ .call op) :
    (d.step c).epoch = d.epoch := by
  cases c with
  | call op => exact absurd rfl (h op)
  | request nowNs staleAfterNs notBeforeNs => rfl
  | take =>
    simp only [step]
    split
    · rfl
    · rfl
  | compute =>
    simp only [step]
    split
    · rfl
    · rfl
  | throws =>
    simp only [step]
    split
    · rfl
    · rfl
    · rfl
  | publish =>
    simp only [step]
    split
    · rfl
    · rfl
    · rfl
  | abandon =>
    simp only [step]
    split
    · rfl
    · rfl
  | fail =>
    simp only [step]
    split
    · rfl
    · rfl

theorem epoch_le_step (d : DrainSystem) (c : DrainStep) : d.epoch ≤ (d.step c).epoch := by
  by_cases h : ∃ op, c = .call op
  · obtain ⟨op, rfl⟩ := h
    show d.epoch ≤ if d.source.invalidates op = true then d.epoch + 1 else d.epoch
    split
    · exact Nat.le_succ _
    · exact le_refl _
  · exact (epoch_step fun op hop => h ⟨op, hop⟩).ge

theorem epoch_le_after (earlier later : List DrainStep) :
    (after identity capacity earlier).epoch ≤ (after identity capacity (earlier ++ later)).epoch := by
  induction later using List.reverseRecOn with
  | nil => rw [List.append_nil]
  | append_singleton later c ih =>
    rw [← List.append_assoc, after_snoc]
    exact ih.trans (epoch_le_step _ c)

end DrainSystem

open DrainSystem

/-- A result stays fresh over a step that does not invalidate. -/
theorem FreshResult.snoc {steps : List DrainStep} {notBeforeNs : ℕ} {m : FrameMetrics ℚ}
    (h : FreshResult identity capacity steps notBeforeNs m) {c : DrainStep}
    (hepoch : (after identity capacity (steps ++ [c])).epoch =
      (after identity capacity steps).epoch) :
    FreshResult identity capacity (steps ++ [c]) notBeforeNs m := by
  cases h with
  | computed earlier later nowNs staleAfterNs hsplit hsame =>
    refine .computed earlier (later ++ [c]) nowNs staleAfterNs ?_ (hsame.trans hepoch.symm)
    rw [hsplit, List.append_assoc]
  | copied earlier later boundary live hsplit hlive hsame hdefault =>
    refine .copied earlier (later ++ [c]) boundary live ?_ hlive (hsame.trans hepoch.symm) hdefault
    rw [hsplit]
    simp
  | failure earlier later report hreport hsplit hsame =>
    refine .failure earlier (later ++ [c]) report hreport ?_ (hsame.trans hepoch.symm)
    rw [hsplit]
    simp

/-- What the worker holds after a run: a request taken at the epoch, and a drain computed
since. -/
def Holding (identity : SampleIdentity) (capacity : ℕ) (steps : List DrainStep) (takenEpoch : ℕ) :
    DrainPhase → Prop
  | .waiting | .ended => True
  | .taken request | .failed request => request.generation = takenEpoch % 2 ^ 64
  | .computed request metrics =>
    request.generation = takenEpoch % 2 ^ 64 ∧
      ∃ earlier later, steps = earlier ++ later ∧
        takenEpoch ≤ (after identity capacity earlier).epoch ∧
        metrics = (after identity capacity earlier).source.drain request.nowNs
          request.staleAfterNs request.notBeforeNs

theorem Holding.generation {steps : List DrainStep} {takenEpoch : ℕ} {request : DrainRequest}
    {metrics : FrameMetrics ℚ}
    (h : Holding identity capacity steps takenEpoch (.computed request metrics)) :
    request.generation = takenEpoch % 2 ^ 64 := h.1

theorem Holding.snoc {steps : List DrainStep} {takenEpoch : ℕ} {phase : DrainPhase}
    (h : Holding identity capacity steps takenEpoch phase) (c : DrainStep) :
    Holding identity capacity (steps ++ [c]) takenEpoch phase := by
  cases phase with
  | waiting => trivial
  | ended => trivial
  | taken request => exact h
  | failed request => exact h
  | computed request metrics =>
    obtain ⟨hgeneration, earlier, later, rfl, hepoch, hmetrics⟩ := h
    exact ⟨hgeneration, earlier, later ++ [c], List.append_assoc _ _ _, hepoch, hmetrics⟩

/-- The slots of a source after a run. -/
structure SlotsTracked (identity : SampleIdentity) (capacity : ℕ) (steps : List DrainStep)
    (s : PresentSource) (epoch : ℕ) : Prop where
  generation : s.drainGeneration = epoch % 2 ^ 64
  pendingDefault : ∀ request, s.pendingDefaultDrain = some request →
    request.generation = s.drainGeneration
  pendingBounded : ∀ request, s.pendingBoundedDrain = some request →
    request.generation = s.drainGeneration
  latestDefault : ∀ m, s.latestDefaultDrain = some m → FreshResult identity capacity steps 0 m
  latestBounded : ∀ m, s.latestBoundedDrain = some m → s.latestBoundedNotBeforeNs ≠ 0 →
    FreshResult identity capacity steps s.latestBoundedNotBeforeNs m

/-- The invariant of a run. -/
structure Tracked (identity : SampleIdentity) (capacity : ℕ) (steps : List DrainStep)
    (d : DrainSystem) : Prop where
  reached : d = after identity capacity steps
  slots : SlotsTracked identity capacity steps d.source d.epoch
  takenEpoch : d.takenEpoch ≤ d.epoch
  holding : Holding identity capacity steps d.takenEpoch d.phase

/-- The slots stay tracked over a step that leaves them and the epoch alone. -/
theorem SlotsTracked.snoc {steps : List DrainStep} {s s' : PresentSource} {epoch : ℕ}
    (h : SlotsTracked identity capacity steps s epoch) {c : DrainStep}
    (hepoch : (after identity capacity (steps ++ [c])).epoch =
      (after identity capacity steps).epoch)
    (hsame : PresentSource.SameDrains s s') :
    SlotsTracked identity capacity (steps ++ [c]) s' epoch := by
  constructor
  · rw [hsame.drainGeneration, h.generation]
  · rw [hsame.pendingDefaultDrain, hsame.drainGeneration]
    exact h.pendingDefault
  · rw [hsame.pendingBoundedDrain, hsame.drainGeneration]
    exact h.pendingBounded
  · rw [hsame.latestDefaultDrain]
    exact fun m hm => (h.latestDefault m hm).snoc hepoch
  · rw [hsame.latestBoundedDrain, hsame.latestBoundedNotBeforeNs]
    exact fun m hm hne => (h.latestBounded m hm hne).snoc hepoch

/-- The epoch of a run is not changed by a step of the worker or a request. -/
theorem epoch_snoc (steps : List DrainStep) {c : DrainStep} (hc : ∀ op, c ≠ .call op) :
    (after identity capacity (steps ++ [c])).epoch = (after identity capacity steps).epoch := by
  rw [after_snoc]
  exact epoch_step hc

/-- A report of this very step. -/
theorem fresh_failure (steps : List DrainStep) {c : DrainStep} (hc : ∀ op, c ≠ .call op)
    (hreport : c.Reports) (notBeforeNs : ℕ) :
    FreshResult identity capacity (steps ++ [c]) notBeforeNs sourceFailure :=
  .failure steps [] c hreport rfl (epoch_snoc steps hc).symm

section Steps

variable {steps : List DrainStep} {d : DrainSystem}

theorem Tracked.reached_snoc (h : Tracked identity capacity steps d) (c : DrainStep) :
    d.step c = after identity capacity (steps ++ [c]) := by
  rw [after_snoc, h.reached]

theorem Tracked.call (h : Tracked identity capacity steps d) (op : PresentOp) :
    Tracked identity capacity (steps ++ [.call op]) (d.step (.call op)) := by
  have hreached := h.reached_snoc (.call op)
  by_cases hinvalidates : d.source.invalidates op = true
  · have hepoch : (d.step (.call op)).epoch = d.epoch + 1 := if_pos hinvalidates
    obtain ⟨hslots, hdefault⟩ := PresentSource.invalidated_apply hinvalidates
    refine ⟨hreached, ?_, ?_, h.holding.snoc _⟩
    · rw [hepoch]
      constructor
      · show (d.source.apply op).drainGeneration = _
        rw [hslots.drainGeneration, h.slots.generation]
        omega
      · intro request hrequest
        rw [show (d.step (.call op)).source = d.source.apply op from rfl,
          hslots.pendingDefaultDrain] at hrequest
        cases hrequest
      · intro request hrequest
        rw [show (d.step (.call op)).source = d.source.apply op from rfl,
          hslots.pendingBoundedDrain] at hrequest
        cases hrequest
      · intro m hm
        change (d.source.apply op).latestDefaultDrain = some m at hm
        rcases hdefault with hnone | ⟨boundary, rfl, hcopy⟩
        · rw [hnone] at hm
          cases hm
        · rw [hcopy] at hm
          obtain ⟨live, hlive, rfl⟩ := Option.map_eq_some_iff.mp hm
          refine .copied steps [] boundary live rfl ?_ ?_ rfl
          · rw [← h.reached]
            exact hlive
          · rw [← hreached, hepoch, ← h.reached]
      · intro m hm _
        rw [show (d.step (.call op)).source = d.source.apply op from rfl,
          hslots.latestBoundedDrain] at hm
        cases hm
    · rw [hepoch]
      exact h.takenEpoch.trans (Nat.le_succ _)
  · have hepoch : (d.step (.call op)).epoch = d.epoch := if_neg hinvalidates
    have hsame := PresentSource.sameDrains_apply (Bool.not_eq_true _ ▸ hinvalidates)
    refine ⟨hreached, ?_, ?_, h.holding.snoc _⟩
    · rw [hepoch]
      exact h.slots.snoc (by rw [← hreached, hepoch, h.reached]) hsame
    · rw [hepoch]
      exact h.takenEpoch

theorem Tracked.request (h : Tracked identity capacity steps d)
    (nowNs staleAfterNs notBeforeNs : ℕ) :
    Tracked identity capacity (steps ++ [.request nowNs staleAfterNs notBeforeNs])
      (d.step (.request nowNs staleAfterNs notBeforeNs)) := by
  have hnot : ∀ op, DrainStep.request nowNs staleAfterNs notBeforeNs ≠ .call op := by
    intro op hop
    cases hop
  have hepoch := @epoch_snoc identity capacity steps _ hnot
  refine ⟨h.reached_snoc _, ?_, h.takenEpoch, h.holding.snoc _⟩
  have hsame := h.slots.snoc hepoch (.refl d.source)
  show SlotsTracked identity capacity _ (d.source.requestDrain nowNs staleAfterNs notBeforeNs)
    d.epoch
  unfold PresentSource.requestDrain
  by_cases hfailed : d.source.drainWorkerFailed = true
  · rw [if_pos hfailed]
    by_cases hdefault : notBeforeNs = 0
    · rw [if_pos hdefault]
      refine ⟨hsame.generation, hsame.pendingDefault, hsame.pendingBounded, ?_,
        hsame.latestBounded⟩
      intro m hm
      obtain rfl := Option.some.inj hm
      exact fresh_failure steps hnot trivial 0
    · rw [if_neg hdefault]
      refine ⟨hsame.generation, hsame.pendingDefault, hsame.pendingBounded, hsame.latestDefault, ?_⟩
      intro m hm _
      obtain rfl := Option.some.inj hm
      exact fresh_failure steps hnot trivial notBeforeNs
  · rw [if_neg hfailed]
    by_cases hdefault : notBeforeNs = 0
    · rw [if_pos hdefault]
      refine ⟨hsame.generation, ?_, hsame.pendingBounded, hsame.latestDefault,
        hsame.latestBounded⟩
      intro request hrequest
      obtain rfl := Option.some.inj hrequest
      rfl
    · rw [if_neg hdefault]
      refine ⟨hsame.generation, hsame.pendingDefault, ?_, hsame.latestDefault,
        hsame.latestBounded⟩
      intro request hrequest
      obtain rfl := Option.some.inj hrequest
      rfl

/-- A step of the worker that finds nothing to do. -/
theorem Tracked.idle (h : Tracked identity capacity steps d) {c : DrainStep}
    (hnot : ∀ op, c ≠ .call op) (hstep : d.step c = d) :
    Tracked identity capacity (steps ++ [c]) (d.step c) := by
  have hreached := h.reached_snoc c
  have hslots := h.slots.snoc (epoch_snoc steps hnot) (.refl d.source)
  rw [hstep] at hreached ⊢
  exact ⟨hreached, hslots, h.takenEpoch, h.holding.snoc c⟩

/-- The worker's request has the generation of the epoch in which it is taken. -/
theorem SlotsTracked.take {epoch : ℕ} {s s' : PresentSource} {request : DrainRequest}
    (h : SlotsTracked identity capacity steps s epoch)
    (htake : s.takeRequest = some (request, s')) :
    request.generation = epoch % 2 ^ 64 ∧ SlotsTracked identity capacity steps s' epoch := by
  unfold PresentSource.takeRequest at htake
  split at htake
  · rename_i found hfound
    obtain ⟨rfl, rfl⟩ := Prod.mk.inj (Option.some.inj htake)
    refine ⟨(h.pendingBounded _ hfound).trans h.generation, h.generation, h.pendingDefault, ?_,
      h.latestDefault, h.latestBounded⟩
    intro request hrequest
    cases hrequest
  · rename_i found hnone hfound
    obtain ⟨rfl, rfl⟩ := Prod.mk.inj (Option.some.inj htake)
    refine ⟨(h.pendingDefault _ hfound).trans h.generation, h.generation, ?_, h.pendingBounded,
      h.latestDefault, h.latestBounded⟩
    intro request hrequest
    cases hrequest
  · cases htake

theorem Tracked.take (h : Tracked identity capacity steps d) :
    Tracked identity capacity (steps ++ [.take]) (d.step .take) := by
  have hnot : ∀ op, DrainStep.take ≠ .call op := by
    intro op hop
    cases hop
  cases hphase : d.phase with
  | waiting =>
    cases htake : d.source.takeRequest with
    | none => exact h.idle hnot (by simp [step, hphase, htake])
    | some found =>
      obtain ⟨request, source⟩ := found
      have hreached := h.reached_snoc .take
      have hslots := h.slots.snoc (epoch_snoc steps hnot) (.refl d.source)
      obtain ⟨hgeneration, htaken⟩ := hslots.take htake
      simp only [step, hphase, htake] at hreached ⊢
      exact ⟨hreached, htaken, le_refl _, hgeneration⟩
  | taken request => exact h.idle hnot (by simp [step, hphase])
  | computed request metrics => exact h.idle hnot (by simp [step, hphase])
  | failed request => exact h.idle hnot (by simp [step, hphase])
  | ended => exact h.idle hnot (by simp [step, hphase])

theorem Tracked.compute (h : Tracked identity capacity steps d) :
    Tracked identity capacity (steps ++ [.compute]) (d.step .compute) := by
  have hnot : ∀ op, DrainStep.compute ≠ .call op := by
    intro op hop
    cases hop
  cases hphase : d.phase with
  | taken request =>
    have hreached := h.reached_snoc .compute
    have hslots := h.slots.snoc (epoch_snoc steps hnot) (.refl d.source)
    have hgeneration : request.generation = d.takenEpoch % 2 ^ 64 := by
      have hholding := h.holding
      rwa [hphase] at hholding
    have htaken := h.takenEpoch
    simp only [step, hphase] at hreached ⊢
    refine ⟨hreached, hslots, htaken, hgeneration, steps, [.compute], rfl, ?_, ?_⟩
    · rwa [← h.reached]
    · rw [← h.reached]
  | waiting => exact h.idle hnot (by simp [step, hphase])
  | computed request metrics => exact h.idle hnot (by simp [step, hphase])
  | failed request => exact h.idle hnot (by simp [step, hphase])
  | ended => exact h.idle hnot (by simp [step, hphase])

theorem Tracked.throws (h : Tracked identity capacity steps d) :
    Tracked identity capacity (steps ++ [.throws]) (d.step .throws) := by
  have hnot : ∀ op, DrainStep.throws ≠ .call op := by
    intro op hop
    cases hop
  have hreached := h.reached_snoc .throws
  have hslots := h.slots.snoc (epoch_snoc steps hnot) (.refl d.source)
  have hholding := h.holding
  have htaken := h.takenEpoch
  cases hphase : d.phase with
  | taken request =>
    rw [hphase] at hholding
    simp only [step, hphase] at hreached ⊢
    exact ⟨hreached, hslots, htaken, hholding⟩
  | computed request metrics =>
    rw [hphase] at hholding
    simp only [step, hphase] at hreached ⊢
    exact ⟨hreached, hslots, htaken, hholding.generation⟩
  | waiting => exact h.idle hnot (by simp [step, hphase])
  | failed request => exact h.idle hnot (by simp [step, hphase])
  | ended => exact h.idle hnot (by simp [step, hphase])

/-- **A publication** is of a result that is fresh when the generation is its request's. -/
theorem SlotsTracked.publish {epoch : ℕ} {s : PresentSource} {request : DrainRequest}
    {m : FrameMetrics ℚ} (h : SlotsTracked identity capacity steps s epoch)
    (hfresh : request.generation = s.drainGeneration →
      FreshResult identity capacity steps request.notBeforeNs m) :
    SlotsTracked identity capacity steps (s.publish request m) epoch := by
  unfold PresentSource.publish
  by_cases hgeneration : request.generation = s.drainGeneration
  · rw [if_pos hgeneration]
    have hresult := hfresh hgeneration
    by_cases hdefault : request.notBeforeNs = 0
    · rw [if_pos hdefault]
      refine ⟨h.generation, h.pendingDefault, h.pendingBounded, ?_, h.latestBounded⟩
      intro m' hm
      obtain rfl := Option.some.inj hm
      rwa [hdefault] at hresult
    · rw [if_neg hdefault]
      refine ⟨h.generation, h.pendingDefault, h.pendingBounded, h.latestDefault, ?_⟩
      intro m' hm _
      obtain rfl := Option.some.inj hm
      exact hresult
  · rw [if_neg hgeneration]
    exact ⟨h.generation, h.pendingDefault, h.pendingBounded, h.latestDefault, h.latestBounded⟩

/-- Two epochs less than 2^64 apart have different generations. -/
theorem epoch_eq {takenEpoch epoch : ℕ} (hle : takenEpoch ≤ epoch)
    (hnear : epoch < takenEpoch + 2 ^ 64)
    (h : takenEpoch % 2 ^ 64 = epoch % 2 ^ 64) : takenEpoch = epoch := by
  omega

theorem Tracked.publish (h : Tracked identity capacity steps d) (hnear : InTime d .publish) :
    Tracked identity capacity (steps ++ [.publish]) (d.step .publish) := by
  have hnot : ∀ op, DrainStep.publish ≠ .call op := by
    intro op hop
    cases hop
  have hreached := h.reached_snoc .publish
  have hepoch := @epoch_snoc identity capacity steps _ hnot
  have hslots := h.slots.snoc hepoch (.refl d.source)
  have hholding := h.holding
  cases hphase : d.phase with
  | computed request metrics =>
    rw [hphase] at hholding
    obtain ⟨hgeneration, earlier, later, hsplit, hafter, rfl⟩ := hholding
    simp only [step, hphase] at hreached ⊢
    refine ⟨hreached, hslots.publish fun hcurrent => ?_, h.takenEpoch, trivial⟩
    -- the epoch has not moved since the request was taken, nor since the drain
    rw [hgeneration, h.slots.generation] at hcurrent
    have hsame := epoch_eq h.takenEpoch hnear hcurrent
    have hbetween : (after identity capacity earlier).epoch ≤ d.epoch := by
      rw [h.reached, hsplit]
      exact epoch_le_after earlier later
    refine .computed earlier (later ++ [.publish]) _ _ ?_ ?_
    · rw [hsplit, List.append_assoc]
    · rw [hepoch, ← h.reached]
      omega
  | failed request =>
    simp only [step, hphase] at hreached ⊢
    refine ⟨hreached, hslots.publish fun _ => ?_, h.takenEpoch, trivial⟩
    exact fresh_failure steps hnot trivial _
  | waiting => exact h.idle hnot (by simp [step, hphase])
  | taken request => exact h.idle hnot (by simp [step, hphase])
  | ended => exact h.idle hnot (by simp [step, hphase])

theorem Tracked.abandon (h : Tracked identity capacity steps d) :
    Tracked identity capacity (steps ++ [.abandon]) (d.step .abandon) := by
  have hnot : ∀ op, DrainStep.abandon ≠ .call op := by
    intro op hop
    cases hop
  have hreached := h.reached_snoc .abandon
  have hslots := h.slots.snoc (epoch_snoc steps hnot) (.refl d.source)
  cases hphase : d.phase with
  | failed request =>
    simp only [step, hphase] at hreached ⊢
    exact ⟨hreached, hslots, h.takenEpoch, trivial⟩
  | waiting => exact h.idle hnot (by simp [step, hphase])
  | taken request => exact h.idle hnot (by simp [step, hphase])
  | computed request metrics => exact h.idle hnot (by simp [step, hphase])
  | ended => exact h.idle hnot (by simp [step, hphase])

theorem Tracked.fail (h : Tracked identity capacity steps d) :
    Tracked identity capacity (steps ++ [.fail]) (d.step .fail) := by
  have hnot : ∀ op, DrainStep.fail ≠ .call op := by
    intro op hop
    cases hop
  have hreached := h.reached_snoc .fail
  cases hphase : d.phase with
  | waiting =>
    simp only [step, hphase] at hreached ⊢
    refine ⟨hreached, ⟨h.slots.generation, ?_, ?_, ?_, ?_⟩, h.takenEpoch, trivial⟩
    · intro request hrequest
      cases hrequest
    · intro request hrequest
      cases hrequest
    · intro m hm
      obtain rfl := Option.some.inj hm
      exact fresh_failure steps hnot trivial 0
    · intro m _ hne
      exact absurd rfl hne
  | taken request => exact h.idle hnot (by simp [step, hphase])
  | computed request metrics => exact h.idle hnot (by simp [step, hphase])
  | failed request => exact h.idle hnot (by simp [step, hphase])
  | ended => exact h.idle hnot (by simp [step, hphase])

/-- **Each step** keeps track. -/
theorem Tracked.step (h : Tracked identity capacity steps d) (c : DrainStep) (hc : InTime d c) :
    Tracked identity capacity (steps ++ [c]) (d.step c) := by
  cases c with
  | call op => exact h.call op
  | request nowNs staleAfterNs notBeforeNs => exact h.request nowNs staleAfterNs notBeforeNs
  | take => exact h.take
  | compute => exact h.compute
  | throws => exact h.throws
  | publish => exact h.publish hc
  | abandon => exact h.abandon
  | fail => exact h.fail

end Steps

/-- **Every run** whose publications come in time keeps track. -/
theorem tracked_after {steps : List DrainStep}
    (h : Along DrainSystem.step InTime (new identity capacity) steps) :
    Tracked identity capacity steps (after identity capacity steps) := by
  induction steps using List.reverseRecOn with
  | nil =>
    refine ⟨rfl, ⟨rfl, ?_, ?_, ?_, ?_⟩, le_refl _, trivial⟩
    · intro request hrequest
      cases hrequest
    · intro request hrequest
      cases hrequest
    · intro m hm
      cases hm
    · intro m hm _
      cases hm
  | append_singleton steps c ih =>
    obtain ⟨hbefore, hc⟩ := along_append.mp h
    rw [after_snoc]
    exact (ih hbefore).step c hc.1

/-- A drain of two presents is asked for, and the worker has taken the request. -/
def takenRun : List DrainStep :=
  [.call .start, .call (.setStatisticsBoundary none),
    .call (.ingest firstPresent), .call (.ingest secondPresent), .request 20020000000 1000000000 0, .take]

/-- It is computed and published. -/
def publishedRun : List DrainStep := takenRun ++ [.compute, .publish]

/-- The statistics are reset so many times between the drain and its publication. -/
def resetRun (n : ℕ) : List DrainStep :=
  (takenRun ++ [.compute]) ++ (List.replicate n (.call .resetStatistics) ++ [.publish])

/-- The part of a run that only resets and publishes. -/
def Resets (later : List DrainStep) : Prop :=
  ∀ c ∈ later, c = .call .resetStatistics ∨ c = .publish

/-- No streams are left. -/
def PresentSource.Empty (s : PresentSource) : Prop := s.streams = []

theorem empty_publish (s : PresentSource) (request : DrainRequest) (m : FrameMetrics ℚ) :
    (s.publish request m).Empty ↔ s.Empty := by
  unfold PresentSource.publish
  split
  · split
    · exact Iff.rfl
    · exact Iff.rfl
  · exact Iff.rfl

theorem step_publish (d : DrainSystem) : d.step .publish = d ∨
    ∃ request m, d.step .publish =
      { d with source := d.source.publish request m, phase := .waiting } := by
  cases hphase : d.phase with
  | computed request metrics => exact .inr ⟨request, metrics, by simp [DrainSystem.step, hphase]⟩
  | failed request => exact .inr ⟨request, sourceFailure, by simp [DrainSystem.step, hphase]⟩
  | waiting => exact .inl (by simp [DrainSystem.step, hphase])
  | taken request => exact .inl (by simp [DrainSystem.step, hphase])
  | ended => exact .inl (by simp [DrainSystem.step, hphase])

/-- Before the first reset the epoch has not moved; behind it there are no streams. -/
theorem resets_exec {d : DrainSystem} {epoch : ℕ} (hd : d.epoch ≤ epoch ∨ d.source.Empty)
    {later : List DrainStep} (h : Resets later) :
    (exec DrainSystem.step d later).epoch ≤ epoch ∨
      (exec DrainSystem.step d later).source.Empty := by
  induction later generalizing d with
  | nil => exact hd
  | cons c rest ih =>
    obtain ⟨hc, hrest⟩ := List.forall_mem_cons.mp h
    refine ih ?_ hrest
    rcases hc with rfl | rfl
    · exact .inr rfl
    · rw [epoch_step (by intro op hop; cases hop)]
      rcases step_publish d with hidle | ⟨request, m, hpublish⟩
      · rwa [hidle]
      · rw [hpublish]
        exact hd.imp id (empty_publish d.source request m).mpr

/-- A source without streams has no frame rate. -/
theorem fps_drain_of_empty {s : PresentSource} (h : s.Empty)
    (nowNs staleAfterNs notBeforeNs : ℕ) :
    (s.drain nowNs staleAfterNs notBeforeNs).fps = none := by
  have hselected : s.selected nowNs staleAfterNs notBeforeNs = none := by
    rw [PresentSource.selected, show s.streams = [] from h]
    rfl
  unfold PresentSource.drain
  split
  · rfl
  · rw [hselected]
    rfl

/-- After some resets the generation is that many further, and the worker is where it was. -/
theorem exec_resets (d : DrainSystem) (hgeneration : d.source.drainGeneration < 2 ^ 64) (n : ℕ) :
    (exec DrainSystem.step d (List.replicate n (.call .resetStatistics))).phase = d.phase ∧
      (exec DrainSystem.step d (List.replicate n (.call .resetStatistics))).epoch = d.epoch + n ∧
      (exec DrainSystem.step d
        (List.replicate n (.call .resetStatistics))).source.drainGeneration =
          (d.source.drainGeneration + n) % 2 ^ 64 := by
  induction n with
  | zero => exact ⟨rfl, rfl, (Nat.mod_eq_of_lt hgeneration).symm⟩
  | succ n ih =>
    obtain ⟨hphase, hepoch, hdrain⟩ := ih
    rw [List.replicate_succ', exec_snoc]
    refine ⟨hphase, ?_, ?_⟩
    · show (exec DrainSystem.step d (List.replicate n (.call .resetStatistics))).epoch + 1 = _
      rw [hepoch]
      rfl
    · show ((exec DrainSystem.step d (List.replicate n
        (.call .resetStatistics))).source.drainGeneration + 1) % 2 ^ 64 = _
      rw [hdrain]
      omega

/-- What the worker computes in both runs. -/
def heldMetrics : FrameMetrics ℚ :=
  (after {} 2 takenRun).source.drain 20020000000 1000000000 0

/-- What the counterexample needs of its beginning. -/
theorem after_takenRun :
    (after {} 2 takenRun).phase = .taken ⟨2, 20020000000, 1000000000, 0⟩ ∧
      (after {} 2 takenRun).epoch = 2 ∧ (after {} 2 takenRun).source.drainGeneration = 2 ∧
      heldMetrics.fps.isSome = true := by
  decide +kernel

/-- The system with the drain computed. -/
def held : DrainSystem := (after {} 2 takenRun).step .compute

theorem held_eq : after {} 2 (takenRun ++ [.compute]) = held := after_snoc _ _

theorem phase_held : held.phase = .computed ⟨2, 20020000000, 1000000000, 0⟩ heldMetrics := by
  rw [held, DrainSystem.step, after_takenRun.1]
  rfl

theorem epoch_held : held.epoch = 2 := by
  rw [held, epoch_step (by intro op hop; cases hop), after_takenRun.2.1]

theorem drainGeneration_held : held.source.drainGeneration = 2 := by
  have hsource : held.source = (after {} 2 takenRun).source := by
    rw [held, DrainSystem.step, after_takenRun.1]
  rw [hsource, after_takenRun.2.2.1]

/-- The system after the resets. -/
def wrapped (n : ℕ) : DrainSystem :=
  exec DrainSystem.step held (List.replicate n (.call .resetStatistics))

theorem after_resetRun (n : ℕ) : after {} 2 (resetRun n) = (wrapped n).step .publish := by
  rw [resetRun, after, exec_append, exec_append _ _ (List.replicate _ _)]
  exact congrArg (fun d => (exec DrainSystem.step d (List.replicate n
    (.call .resetStatistics))).step .publish) held_eq

theorem epoch_resetRun (n : ℕ) : (after {} 2 (resetRun n)).epoch = 2 + n := by
  obtain ⟨-, hepoch, -⟩ := exec_resets held (by rw [drainGeneration_held]; decide) n
  rw [after_resetRun, epoch_step (by intro op hop; cases hop), wrapped, hepoch, epoch_held]

theorem resets_tail (n : ℕ) :
    Resets (List.replicate n (.call .resetStatistics) ++ [.publish]) := by
  intro c hc
  rcases List.mem_append.mp hc with hc | hc
  · exact .inl (List.eq_of_mem_replicate hc)
  · exact .inr (List.mem_singleton.mp hc)

/-- With a reset in between, a fresh result has no frame rate. -/
theorem fps_of_fresh_resetRun {n : ℕ} (hn : 2 ≤ n) {m : FrameMetrics ℚ}
    (h : FreshResult {} 2 (resetRun n) 0 m) : m.fps = none := by
  have hheld : (after {} 2 (takenRun ++ [.compute])).epoch = 2 := by rw [held_eq, epoch_held]
  cases h with
  | computed earlier later nowNs staleAfterNs hsplit hepoch =>
    rw [epoch_resetRun] at hepoch
    rcases List.append_eq_append_iff.mp hsplit with ⟨more, rfl, hmore⟩ | ⟨more, hfront, -⟩
    · -- the drain comes behind the compute: the resets have emptied the source
      have hresets : Resets more := fun c hc =>
        resets_tail n c (hmore ▸ List.mem_append_left later hc)
      rw [after, exec_append] at hepoch ⊢
      rcases resets_exec (.inl hheld.le) hresets with hbefore | hempty
      · rw [after] at hbefore
        omega
      · exact fps_drain_of_empty hempty _ _ _
    · have hbefore := @epoch_le_after {} 2 earlier more
      rw [← hfront, hheld] at hbefore
      omega
  | copied earlier later boundary live hsplit hlive hepoch hdefault =>
    rw [epoch_resetRun] at hepoch
    rcases List.append_eq_append_iff.mp hsplit with ⟨more, rfl, hmore⟩ | ⟨more, hfront, -⟩
    · have hmem : DrainStep.call (.setStatisticsBoundary boundary) ∈
          List.replicate n (.call .resetStatistics) ++ [.publish] := by
        rw [hmore]
        simp
      rcases resets_tail n _ hmem with hcall | hcall
      · cases hcall
      · cases hcall
    · have hbefore := @epoch_le_after {} 2 earlier more
      rw [← hfront, hheld] at hbefore
      omega
  | failure earlier later report hreport hsplit hepoch => rfl

end Kf2Optimizer.Telemetry
