/-
# Resource samples and their binding

`ResourceTelemetryWorker::Impl` samples on a thread of its own, without the lock, while `bind`,
`invalidate_samples`, `clear` and `stop` may replace, drop and re-establish the binding.  What
guards a publication is spread over four things: the generation, the equality of the bindings,
the equality of the sessions and the flag of an outstanding log reset.

* `Bound`: the published snapshot is of the current generation and binding, and the queued log
  chunks are of its session;
* `samples_stay_bound`: after every run; the publication numbers increase, and a chunk is queued
  only for the bound session, with no reset outstanding.

A snapshot is filled in when its generation is not that of the request, so a generation that has
gone round to zero, which an empty snapshot has too, leaves the identity out (`zero_generation`).
-/
import Kf2Optimizer.Lib.Machine
import Kf2Optimizer.Telemetry.FrameMetrics

namespace Kf2Optimizer.Telemetry

open StepMachine

/-! ## 1. Data -/

inductive ResourceSampleGroup
  | processAndMemory | gpu
deriving DecidableEq

/-- The group after this one. -/
def ResourceSampleGroup.next : ResourceSampleGroup → ResourceSampleGroup
  | .processAndMemory => .gpu
  | .gpu => .processAndMemory

/-- `ResourceTelemetryBinding`. -/
structure ResourceTelemetryBinding where
  identity : SampleIdentity := {}
  adapterLuid : Option ℕ := none
  adapterName : String := ""
  adapterVendorId : ℕ := 0
  gameLogDirectory : String := ""
deriving DecidableEq

/-- `same_binding`. -/
def sameBinding (left right : ResourceTelemetryBinding) : Bool :=
  decide (left.identity.pid = right.identity.pid ∧
    left.identity.processStartId = right.identity.processStartId ∧
    left.adapterLuid = right.adapterLuid ∧ left.adapterName = right.adapterName ∧
    left.adapterVendorId = right.adapterVendorId ∧
    left.gameLogDirectory = right.gameLogDirectory)

/-- `same_session`. -/
def sameSession (left right : ResourceTelemetryBinding) : Bool :=
  decide (left.identity.pid = right.identity.pid ∧
    left.identity.processStartId = right.identity.processStartId ∧
    left.gameLogDirectory = right.gameLogDirectory)

/-- `ResourceSampleRequest`. -/
structure ResourceSampleRequest where
  binding : ResourceTelemetryBinding
  group : ResourceSampleGroup := .processAndMemory
  sampledAtNs : ℕ := 0
deriving DecidableEq

/-- `ResourceSampleBatch`: the readings of one group. -/
structure ResourceSampleBatch (P G : Type) where
  process : Option P := none
  gpu : Option G := none
deriving DecidableEq

/-- `ResourceTelemetrySnapshot`. -/
structure ResourceTelemetrySnapshot (P G : Type) where
  generation : ℕ := 0
  publicationSequence : ℕ := 0
  identity : SampleIdentity := {}
  adapterLuid : Option ℕ := none
  processSampledAtNs : ℕ := 0
  gpuSampledAtNs : ℕ := 0
  process : Option P := none
  gpu : Option G := none
deriving DecidableEq

/-- `GameLogChunk`, with the binding whose session it was sampled for. -/
structure GameLogChunk (C : Type) where
  binding : ResourceTelemetryBinding
  content : C
deriving DecidableEq

/-- `ResourceTelemetryWorker::Impl`. -/
structure WorkerState (P G C : Type) where
  stopped : Bool := false
  workerFailed : Bool := false
  pending : Bool := false
  resetLog : Bool := false
  active : Bool := false
  pendingAtNs : ℕ := 0
  generation : ℕ := 0
  publicationSequence : ℕ := 0
  nextGroup : ResourceSampleGroup := .processAndMemory
  binding : Option ResourceTelemetryBinding := none
  published : Option (ResourceTelemetrySnapshot P G) := none
  logChunks : List (GameLogChunk C) := []
deriving DecidableEq

theorem sameBinding_iff {left right : ResourceTelemetryBinding} :
    sameBinding left right = true ↔ left = right := by
  rw [sameBinding, decide_eq_true_eq]
  constructor
  · obtain ⟨⟨pid, start⟩, luid, name, vendor, directory⟩ := left
    rintro ⟨rfl, rfl, rfl, rfl, rfl, rfl⟩
    rfl
  · rintro rfl
    exact ⟨rfl, rfl, rfl, rfl, rfl, rfl⟩

theorem sameSession_refl (binding : ResourceTelemetryBinding) :
    sameSession binding binding = true := decide_eq_true ⟨rfl, rfl, rfl⟩

theorem sameSession_trans {a b c : ResourceTelemetryBinding} (h : sameSession a b = true)
    (h' : sameSession a c = true) : sameSession b c = true := by
  rw [sameSession, decide_eq_true_eq] at h h' ⊢
  exact ⟨h.1.symm.trans h'.1, h.2.1.symm.trans h'.2.1, h.2.2.symm.trans h'.2.2⟩

theorem sameSession_symm {a b : ResourceTelemetryBinding} (h : sameSession a b = true) :
    sameSession b a = true := sameSession_trans h (sameSession_refl a)

/-! ## 2. The calls -/

namespace WorkerState

variable {P G C : Type}

/-- What `bind`, `invalidate_samples` and `clear` all do to the samples. -/
def dropSamples (s : WorkerState P G C) : WorkerState P G C :=
  { s with
    generation := (s.generation + 1) % 2 ^ 64
    pending := false
    nextGroup := .processAndMemory
    published := none }

/-- What `bind` to another session and `clear` do to the log. -/
def dropLog (s : WorkerState P G C) : WorkerState P G C :=
  { s with logChunks := [], resetLog := !s.stopped && !s.workerFailed }

def bind (s : WorkerState P G C) (binding : ResourceTelemetryBinding) : WorkerState P G C :=
  if s.binding.any fun old => sameBinding old binding then s
  else
    let preserveLog := s.binding.any fun old => sameSession old binding
    let bound := { s.dropSamples with binding := some binding }
    if preserveLog then bound else bound.dropLog

/-- `invalidate_samples`. -/
def invalidateSamples (s : WorkerState P G C) : WorkerState P G C :=
  if s.binding = none ∨ s.stopped = true then s else s.dropSamples

def clear (s : WorkerState P G C) : WorkerState P G C :=
  ({ s.dropSamples with binding := none } : WorkerState P G C).dropLog

def request (s : WorkerState P G C) (sampledAtNs : ℕ) : WorkerState P G C :=
  if s.binding = none ∨ s.stopped = true ∨ s.workerFailed = true then s
  else { s with pendingAtNs := sampledAtNs, pending := true }

/-- `take_game_log_chunks`: the chunks of the process, and an empty queue. -/
def takeGameLogChunks (s : WorkerState P G C) (identity : SampleIdentity) :
    List (GameLogChunk C) × WorkerState P G C :=
  (s.logChunks.filter fun chunk => decide (chunk.binding.identity = identity),
    { s with logChunks := [] })

def stop (s : WorkerState P G C) : WorkerState P G C :=
  if s.stopped then s else { s with stopped := true, pending := false, resetLog := false }

/-- `run`, when the loop throws. -/
def fail (s : WorkerState P G C) : WorkerState P G C :=
  { s with
    workerFailed := true, pending := false, resetLog := false, active := false
    published := none }

/-- `finish_failed_sample`. -/
def finishFailedSample (s : WorkerState P G C) : WorkerState P G C :=
  { s with active := false, published := none }

/-! ## 3. The worker's critical sections -/

/-- The worker takes the pending request. -/
def takeRequest (s : WorkerState P G C) (binding : ResourceTelemetryBinding) :
    ResourceSampleRequest × WorkerState P G C :=
  (⟨binding, s.nextGroup, s.pendingAtNs⟩,
    { s with pending := false, active := true, nextGroup := s.nextGroup.next })

/-- The chunk is queued at the publication. -/
def queues (s : WorkerState P G C) (request : ResourceSampleRequest) : Bool :=
  !s.resetLog && s.binding.any fun binding => sameSession binding request.binding

def queueChunk (s : WorkerState P G C) (request : ResourceSampleRequest)
    (chunk : Option (GameLogChunk C)) : WorkerState P G C :=
  if s.queues request then { s with logChunks := s.logChunks ++ chunk.toList } else s

/-- The samples are published. -/
def accepts (s : WorkerState P G C) (request : ResourceSampleRequest) (generation : ℕ) : Bool :=
  !s.stopped && decide (s.generation = generation) &&
    s.binding.any fun binding => sameBinding binding request.binding

/-- The next snapshot before its readings: the published one, made out again when its generation
is not that of the request. -/
def baseSnapshot (s : WorkerState P G C) (request : ResourceSampleRequest) (generation : ℕ) :
    ResourceTelemetrySnapshot P G :=
  let next := s.published.getD {}
  if next.generation ≠ generation then
    { generation := generation
      identity := request.binding.identity
      adapterLuid := request.binding.adapterLuid }
  else next

/-- The snapshot with the readings of the request's group. -/
def readSnapshot (next : ResourceTelemetrySnapshot P G) (request : ResourceSampleRequest)
    (batch : ResourceSampleBatch P G) : ResourceTelemetrySnapshot P G :=
  match request.group with
  | .processAndMemory =>
    { next with processSampledAtNs := request.sampledAtNs, process := batch.process }
  | .gpu => { next with gpuSampledAtNs := request.sampledAtNs, gpu := batch.gpu }

/-- The publication of the samples. -/
def publishSamples (s : WorkerState P G C) (request : ResourceSampleRequest) (generation : ℕ)
    (batch : ResourceSampleBatch P G) : WorkerState P G C :=
  if s.accepts request generation then
    let sequence := (s.publicationSequence + 1) % 2 ^ 64
    let next := readSnapshot (s.baseSnapshot request generation) request batch
    { s with
      published := some { next with publicationSequence := sequence }
      publicationSequence := sequence
      active := false }
  else { s with active := false }

end WorkerState

/-- Where `run_loop` stands between two critical sections.  A request is kept with the number of
log resets at the time it was taken. -/
inductive SamplePhase (P G C : Type)
  | waiting
  | resetting
  | sampling (request : ResourceSampleRequest) (generation resets : ℕ)
  /-- The queue was seen with or without room. -/
  | looked (request : ResourceSampleRequest) (generation resets : ℕ) (room : Bool)
  | sampled (request : ResourceSampleRequest) (generation resets : ℕ)
      (batch : ResourceSampleBatch P G) (chunk : Option C)
  | ended

/-- Where a publication throws. -/
inductive PublicationFailure
  | none | beforeChunk | afterChunk

/-- A call, or a step of the worker. -/
inductive WorkerStep (P G C : Type)
  | bind (binding : ResourceTelemetryBinding)
  | invalidateSamples
  | clear
  | request (sampledAtNs : ℕ)
  | takeGameLogChunks (identity : SampleIdentity)
  | stop
  /-- A reset or a request is taken. -/
  | take
  /-- The reset of the log is done. -/
  | resetDone
  /-- The room in the queue is read. -/
  | look
  /-- The samplers return, or throw: the readings are then empty. -/
  | sample (batch : ResourceSampleBatch P G) (chunk : Option C)
  | publish (failure : PublicationFailure)
  /-- The loop throws. -/
  | fail
  /-- The loop ends after `stop`. -/
  | finish

/-- The worker with its thread.  `resets` counts the log resets that were asked for. -/
structure SampleSystem (P G C : Type) where
  worker : WorkerState P G C := {}
  phase : SamplePhase P G C := .waiting
  resets : ℕ := 0

namespace SampleSystem

variable {P G C : Type}

/-- A call, with the log reset it asks for. -/
def call (d : SampleSystem P G C) (worker : WorkerState P G C) : SampleSystem P G C :=
  { d with
    worker := worker
    resets := if worker.resetLog && !d.worker.resetLog then d.resets + 1 else d.resets }

/-- `.take`. -/
def take (d : SampleSystem P G C) : SampleSystem P G C :=
  if d.worker.resetLog then
    { d with worker := { d.worker with resetLog := false, active := true }, phase := .resetting }
  else
    match d.worker.pending, d.worker.binding with
    | true, some binding =>
      let (request, worker) := d.worker.takeRequest binding
      { d with worker := worker, phase := .sampling request d.worker.generation d.resets }
    | _, _ => d

/-- `.publish`. -/
def publish (d : SampleSystem P G C) (request : ResourceSampleRequest) (generation : ℕ)
    (batch : ResourceSampleBatch P G) (chunk : Option C) :
    PublicationFailure → SampleSystem P G C
  | .beforeChunk => { d with worker := d.worker.finishFailedSample, phase := .waiting }
  | .afterChunk =>
    { d with
      worker := (d.worker.queueChunk request
        (chunk.map fun content => ⟨request.binding, content⟩)).finishFailedSample
      phase := .waiting }
  | .none =>
    { d with
      worker := (d.worker.queueChunk request
        (chunk.map fun content => ⟨request.binding, content⟩)).publishSamples request generation
          batch
      phase := .waiting }

def step (d : SampleSystem P G C) : WorkerStep P G C → SampleSystem P G C
  | .bind binding => d.call (d.worker.bind binding)
  | .invalidateSamples => d.call d.worker.invalidateSamples
  | .clear => d.call d.worker.clear
  | .request sampledAtNs => d.call (d.worker.request sampledAtNs)
  | .takeGameLogChunks identity => d.call (d.worker.takeGameLogChunks identity).2
  | .stop => d.call d.worker.stop
  | .take =>
    match d.phase with
    | .waiting => d.take
    | _ => d
  | .resetDone =>
    match d.phase with
    | .resetting => { d with worker := { d.worker with active := false }, phase := .waiting }
    | _ => d
  | .look =>
    match d.phase with
    | .sampling request generation resets =>
      { d with phase := .looked request generation resets (decide (d.worker.logChunks.length < 8)) }
    | _ => d
  | .sample batch chunk =>
    match d.phase with
    | .sampling request generation resets =>
      { d with phase := .sampled request generation resets batch none }
    | .looked request generation resets room =>
      { d with phase := .sampled request generation resets batch (if room then chunk else none) }
    | _ => d
  | .publish failure =>
    match d.phase with
    | .sampled request generation _ batch chunk => d.publish request generation batch chunk failure
    | _ => d
  | .fail =>
    match d.phase with
    | .waiting => { d with worker := d.worker.fail, phase := .ended }
    | _ => d
  | .finish =>
    match d.phase with
    | .waiting => if d.worker.stopped then { d with phase := .ended } else d
    | _ => d

end SampleSystem

/-! ## 4. What stays bound -/

variable {P G C : Type}

/-- The published snapshot and the queued chunks are those of the binding. -/
structure Bound (s : WorkerState P G C) : Prop where
  published : ∀ p, s.published = some p → p.generation = s.generation ∧
    ∃ binding, s.binding = some binding ∧ p.identity = binding.identity ∧
      p.adapterLuid = binding.adapterLuid
  queued : ∀ chunk ∈ s.logChunks, ∃ binding, s.binding = some binding ∧
    sameSession binding chunk.binding = true

/-- The log resets when the worker's request was taken. -/
def SamplePhase.takenResets : SamplePhase P G C → Option ℕ
  | .sampling _ _ resets | .looked _ _ resets _ | .sampled _ _ resets _ _ => some resets
  | .waiting | .resetting | .ended => none

/-- The invariant of the worker and its thread. -/
structure SampleSystem.Sound (d : SampleSystem P G C) : Prop where
  bound : Bound d.worker
  failed : d.worker.workerFailed = true → d.phase = .ended
  /-- Without an outstanding reset none was asked for since the request was taken. -/
  fresh : ∀ resets, d.phase.takenResets = some resets → d.worker.resetLog = false →
    d.worker.stopped = false → d.resets = resets

/-- A publication that leaves room in the two counters. -/
def InRange (d : SampleSystem P G C) : WorkerStep P G C → Prop
  | .publish _ => (d.worker.binding ≠ none → d.worker.generation ≠ 0) ∧
      d.worker.publicationSequence + 1 < 2 ^ 64
  | _ => True

/-- A chunk that joins the queue belongs to the bound session, with no reset outstanding; unless
the worker is stopped, no reset was asked for since its request was taken. -/
def QueuesBound (d : SampleSystem P G C) (c : WorkerStep P G C) : Prop :=
  ∀ chunk ∈ (d.step c).worker.logChunks, chunk ∈ d.worker.logChunks ∨
    ((∃ binding, d.worker.binding = some binding ∧ sameSession binding chunk.binding = true) ∧
      d.worker.resetLog = false ∧
      (d.worker.stopped = false → d.phase.takenResets = some d.resets))

/-- The numbers of the snapshots that a step publishes. -/
def publications (d : SampleSystem P G C) : WorkerStep P G C → List ℕ
  | .publish .none =>
    match d.phase with
    | .sampled request generation _ _ _ =>
      if d.worker.accepts request generation then
        ((d.step (.publish .none)).worker.published.map (·.publicationSequence)).toList
      else []
    | _ => []
  | _ => []

namespace WorkerState

theorem bound_dropSamples {s : WorkerState P G C} (h : Bound s) : Bound s.dropSamples := by
  constructor
  · intro p hp
    cases hp
  · exact h.queued

theorem bound_bind {s : WorkerState P G C} (h : Bound s) (binding : ResourceTelemetryBinding) :
    Bound (s.bind binding) := by
  unfold bind
  split
  · exact h
  · simp only
    split
    · rename_i hsession
      constructor
      · intro p hp
        cases hp
      · intro chunk hchunk
        obtain ⟨old, hold, hsame⟩ := h.queued chunk hchunk
        rw [hold, Option.any_some] at hsession
        exact ⟨binding, rfl, sameSession_trans hsession hsame⟩
    · constructor
      · intro p hp
        cases hp
      · intro chunk hchunk
        cases hchunk

theorem bound_clear (s : WorkerState P G C) : Bound s.clear := by
  constructor
  · intro p hp
    cases hp
  · intro chunk hchunk
    cases hchunk

theorem bound_queueChunk {s : WorkerState P G C} (h : Bound s) (request : ResourceSampleRequest)
    (content : Option C) :
    Bound (s.queueChunk request (content.map fun content => ⟨request.binding, content⟩)) := by
  unfold queueChunk
  by_cases hqueues : s.queues request = true
  · rw [if_pos hqueues]
    refine ⟨h.published, fun chunk hchunk => ?_⟩
    rcases List.mem_append.mp hchunk with hchunk | hchunk
    · exact h.queued chunk hchunk
    · obtain ⟨c, -, rfl⟩ := Option.map_eq_some_iff.mp (Option.mem_toList.mp hchunk)
      rw [queues, Bool.and_eq_true, Option.any_eq_true] at hqueues
      exact hqueues.2
  · rw [if_neg hqueues]
    exact h

/-- **A publication** carries the generation and the binding that it was checked against. -/
theorem bound_publishSamples {s : WorkerState P G C} (h : Bound s) (request : ResourceSampleRequest)
    (generation : ℕ) (batch : ResourceSampleBatch P G)
    (hzero : s.binding ≠ none → s.generation ≠ 0) :
    Bound (s.publishSamples request generation batch) := by
  unfold publishSamples
  by_cases haccepts : s.accepts request generation = true
  · rw [if_pos haccepts]
    refine ⟨fun p hp => ?_, h.queued⟩
    obtain rfl := Option.some.inj hp
    simp only [accepts, Bool.and_eq_true, decide_eq_true_eq, Option.any_eq_true] at haccepts
    obtain ⟨⟨-, rfl⟩, binding, hbinding, hsame⟩ := haccepts
    obtain rfl := sameBinding_iff.mp hsame
    have hbase : (s.baseSnapshot request s.generation).generation = s.generation ∧
        (s.baseSnapshot request s.generation).identity = request.binding.identity ∧
        (s.baseSnapshot request s.generation).adapterLuid = request.binding.adapterLuid := by
      unfold baseSnapshot
      simp only
      split
      · exact ⟨rfl, rfl, rfl⟩
      · rename_i hsameGeneration
        rw [not_not] at hsameGeneration
        cases hpublished : s.published with
        | none =>
          -- an empty snapshot has generation zero
          rw [hpublished] at hsameGeneration
          exact absurd hsameGeneration.symm (hzero (by rw [hbinding]; exact Option.some_ne_none _))
        | some p =>
          obtain ⟨hgeneration, bound, hbound, hidentity, hluid⟩ := h.published p hpublished
          rw [hbinding, Option.some.injEq] at hbound
          subst hbound
          exact ⟨hgeneration, hidentity, hluid⟩
    have hread : ∀ next : ResourceTelemetrySnapshot P G,
        (readSnapshot next request batch).generation = next.generation ∧
        (readSnapshot next request batch).identity = next.identity ∧
        (readSnapshot next request batch).adapterLuid = next.adapterLuid := by
      intro next
      unfold readSnapshot
      cases request.group <;> exact ⟨rfl, rfl, rfl⟩
    obtain ⟨hgeneration, hidentity, hluid⟩ := hread (s.baseSnapshot request s.generation)
    exact ⟨hgeneration.trans hbase.1, request.binding, hbinding, hidentity.trans hbase.2.1,
      hluid.trans hbase.2.2⟩
  · rw [if_neg haccepts]
    exact ⟨h.published, h.queued⟩

/-- A call leaves a failure as it is and takes back a reset only when the worker is stopped or has
failed. -/
structure CallKeeps (s s' : WorkerState P G C) : Prop where
  workerFailed : s'.workerFailed = s.workerFailed
  stopped : s.stopped = true → s'.stopped = true
  resetLog : s'.resetLog = false → s'.stopped = false → s'.workerFailed = false →
    s.resetLog = false

theorem CallKeeps.refl (s : WorkerState P G C) : CallKeeps s s :=
  ⟨rfl, id, fun hreset _ _ => hreset⟩

theorem callKeeps_dropSamples (s : WorkerState P G C) : CallKeeps s s.dropSamples :=
  ⟨rfl, id, fun hreset _ _ => hreset⟩

theorem callKeeps_dropLog {s s' : WorkerState P G C} (h : CallKeeps s s') :
    CallKeeps s s'.dropLog := by
  refine ⟨h.workerFailed, h.stopped, fun hreset hstopped hfailed => ?_⟩
  change s'.stopped = false at hstopped
  change s'.workerFailed = false at hfailed
  change (!s'.stopped && !s'.workerFailed) = false at hreset
  rw [hstopped, hfailed] at hreset
  cases hreset

theorem callKeeps_bind (s : WorkerState P G C) (binding : ResourceTelemetryBinding) :
    CallKeeps s (s.bind binding) := by
  have hbound : CallKeeps s { s.dropSamples with binding := some binding } :=
    ⟨rfl, id, fun hreset _ _ => hreset⟩
  unfold bind
  split
  · exact .refl s
  · simp only
    split
    · exact hbound
    · exact callKeeps_dropLog hbound

theorem callKeeps_clear (s : WorkerState P G C) : CallKeeps s s.clear := by
  have hunbound : CallKeeps s { s.dropSamples with binding := none } :=
    ⟨rfl, id, fun hreset _ _ => hreset⟩
  exact callKeeps_dropLog hunbound

theorem callKeeps_stop (s : WorkerState P G C) : CallKeeps s s.stop := by
  unfold stop
  split
  · exact .refl s
  · refine ⟨rfl, fun _ => rfl, fun _ hstopped _ => ?_⟩
    cases hstopped

end WorkerState

namespace SampleSystem

open WorkerState

theorem sound_call {d : SampleSystem P G C} (h : d.Sound) {s : WorkerState P G C} (hbound : Bound s)
    (hkeeps : CallKeeps d.worker s) : (d.call s).Sound := by
  refine ⟨hbound, fun hfailed => h.failed (hkeeps.workerFailed ▸ hfailed), ?_⟩
  intro resets hresets hreset hstopped
  change s.resetLog = false at hreset
  change s.stopped = false at hstopped
  have hcount : (d.call s).resets = d.resets := by
    show (if (s.resetLog && !d.worker.resetLog) = true then d.resets + 1 else d.resets) = _
    rw [hreset]
    rfl
  rw [hcount]
  have hrunning : s.workerFailed = false := by
    by_contra hfailed
    rw [Bool.not_eq_false] at hfailed
    have hended := h.failed (hkeeps.workerFailed ▸ hfailed)
    change d.phase.takenResets = some resets at hresets
    rw [hended] at hresets
    cases hresets
  have hbefore : d.worker.stopped = false := by
    by_contra hafter
    rw [hkeeps.stopped (by simpa using hafter)] at hstopped
    cases hstopped
  exact h.fresh resets hresets (hkeeps.resetLog hreset hstopped hrunning) hbefore

theorem sound_take {d : SampleSystem P G C} (h : d.Sound) (hphase : d.phase = .waiting) :
    d.take.Sound := by
  have hrunning : d.worker.workerFailed ≠ true := by
    intro hfailed
    rw [h.failed hfailed] at hphase
    cases hphase
  unfold take
  split
  · refine ⟨⟨h.bound.published, h.bound.queued⟩, fun hfailed => absurd hfailed hrunning, ?_⟩
    intro resets hresets
    cases hresets
  · split
    · refine ⟨⟨h.bound.published, h.bound.queued⟩, fun hfailed => absurd hfailed hrunning, ?_⟩
      intro resets hresets _ _
      exact Option.some.inj hresets
    · exact h

theorem sound_publish {d : SampleSystem P G C} (h : d.Sound) {request : ResourceSampleRequest}
    {generation resets : ℕ} {batch : ResourceSampleBatch P G} {chunk : Option C}
    (hphase : d.phase = .sampled request generation resets batch chunk)
    (hzero : d.worker.binding ≠ none → d.worker.generation ≠ 0) (failure : PublicationFailure) :
    (d.publish request generation batch chunk failure).Sound := by
  have hrunning : d.worker.workerFailed ≠ true := by
    intro hfailed
    rw [h.failed hfailed] at hphase
    cases hphase
  have hqueued := bound_queueChunk h.bound request chunk
  have hsame : ∀ content : Option C,
      (d.worker.queueChunk request (content.map fun c => ⟨request.binding, c⟩)).workerFailed =
        d.worker.workerFailed ∧
      (d.worker.queueChunk request (content.map fun c => ⟨request.binding, c⟩)).binding =
        d.worker.binding ∧
      (d.worker.queueChunk request (content.map fun c => ⟨request.binding, c⟩)).generation =
        d.worker.generation := by
    intro content
    unfold queueChunk
    split <;> exact ⟨rfl, rfl, rfl⟩
  obtain ⟨hfailed, hbinding, hgeneration⟩ := hsame chunk
  have hdropped : ∀ {s : WorkerState P G C}, Bound s → Bound s.finishFailedSample := by
    intro s hs
    refine ⟨fun p hp => ?_, hs.queued⟩
    cases hp
  cases failure with
  | beforeChunk =>
    refine ⟨hdropped h.bound, fun hf => absurd hf hrunning, ?_⟩
    intro resets hresets
    cases hresets
  | afterChunk =>
    refine ⟨hdropped hqueued, fun hf => absurd (hfailed ▸ hf) hrunning, ?_⟩
    intro resets hresets
    cases hresets
  | none =>
    have hpublished := bound_publishSamples hqueued request generation batch
      (by rw [hbinding, hgeneration]; exact hzero)
    refine ⟨hpublished, fun hf => ?_, ?_⟩
    · have hkept : ((d.worker.queueChunk request (chunk.map fun c =>
          ⟨request.binding, c⟩)).publishSamples request generation batch).workerFailed =
            d.worker.workerFailed := by
        unfold publishSamples
        split <;> exact hfailed
      exact absurd (hkept ▸ hf) hrunning
    · intro resets hresets
      cases hresets

/-- A worker that goes on with its request. -/
theorem sound_phase {d : SampleSystem P G C} (h : d.Sound) {phase : SamplePhase P G C}
    (hphase : d.phase ≠ .ended)
    (hresets : ∀ resets, phase.takenResets = some resets → d.phase.takenResets = some resets) :
    ({ d with phase := phase } : SampleSystem P G C).Sound := by
  refine ⟨h.bound, fun hfailed => absurd (h.failed hfailed) hphase, ?_⟩
  intro resets htaken
  exact h.fresh resets (hresets resets htaken)

/-- **Each step** keeps the worker sound. -/
theorem sound_step {d : SampleSystem P G C} (h : d.Sound) (c : WorkerStep P G C)
    (hc : InRange d c) : (d.step c).Sound := by
  have hbound := h.bound
  cases c with
  | bind binding => exact sound_call h (bound_bind hbound binding) (callKeeps_bind _ binding)
  | clear => exact sound_call h (bound_clear _) (callKeeps_clear _)
  | invalidateSamples =>
    refine sound_call h ?_ ?_
    · unfold invalidateSamples
      split
      · exact hbound
      · exact bound_dropSamples hbound
    · unfold invalidateSamples
      split
      · exact .refl _
      · exact callKeeps_dropSamples _
  | request sampledAtNs =>
    refine sound_call h ?_ ?_
    · unfold WorkerState.request
      split
      · exact hbound
      · exact ⟨hbound.published, hbound.queued⟩
    · unfold WorkerState.request
      split
      · exact .refl _
      · exact ⟨rfl, id, fun hreset _ _ => hreset⟩
  | takeGameLogChunks identity =>
    refine sound_call h ⟨hbound.published, fun chunk hchunk => ?_⟩
      ⟨rfl, id, fun hreset _ _ => hreset⟩
    cases hchunk
  | stop =>
    refine sound_call h ?_ (callKeeps_stop _)
    unfold WorkerState.stop
    split
    · exact hbound
    · exact ⟨hbound.published, hbound.queued⟩
  | take =>
    simp only [step]
    split
    · rename_i hphase
      exact sound_take h hphase
    · exact h
  | resetDone =>
    simp only [step]
    split
    · rename_i hphase
      refine ⟨⟨hbound.published, hbound.queued⟩, fun hfailed => ?_, ?_⟩
      · rw [h.failed hfailed] at hphase
        cases hphase
      · intro resets hresets
        cases hresets
    · exact h
  | look =>
    simp only [step]
    split
    · rename_i request generation resets hphase
      refine sound_phase h (by rw [hphase]; exact nofun) fun taken htaken => ?_
      rw [hphase]
      exact htaken
    · exact h
  | sample batch chunk =>
    simp only [step]
    split
    · rename_i request generation resets hphase
      refine sound_phase h (by rw [hphase]; exact nofun) fun taken htaken => ?_
      rw [hphase]
      exact htaken
    · rename_i request generation resets room hphase
      refine sound_phase h (by rw [hphase]; exact nofun) fun taken htaken => ?_
      rw [hphase]
      exact htaken
    · exact h
  | publish failure =>
    simp only [step]
    split
    · rename_i request generation resets batch chunk hphase
      exact sound_publish h hphase hc.1 failure
    · exact h
  | fail =>
    simp only [step]
    split
    · refine ⟨⟨fun p hp => ?_, hbound.queued⟩, fun _ => rfl, ?_⟩
      · cases hp
      · intro resets hresets
        cases hresets
    · exact h
  | finish =>
    simp only [step]
    split
    · split
      · refine ⟨hbound, fun _ => rfl, ?_⟩
        intro resets hresets
        cases hresets
      · exact h
    · exact h

/-- What a publication leaves in the queue: what was there, and perhaps the chunk, if it may
join. -/
theorem mem_queueChunk {s : WorkerState P G C} {request : ResourceSampleRequest}
    {content : Option C} {chunk : GameLogChunk C}
    (h : chunk ∈ (s.queueChunk request
      (content.map fun content => ⟨request.binding, content⟩)).logChunks) :
    chunk ∈ s.logChunks ∨ (s.queues request = true ∧ chunk.binding = request.binding) := by
  unfold queueChunk at h
  split at h
  · rename_i hqueues
    rcases List.mem_append.mp h with h | h
    · exact .inl h
    · obtain ⟨c, -, rfl⟩ := Option.map_eq_some_iff.mp (Option.mem_toList.mp h)
      exact .inr ⟨hqueues, rfl⟩
  · exact .inl h

theorem logChunks_publishSamples (s : WorkerState P G C) (request : ResourceSampleRequest)
    (generation : ℕ) (batch : ResourceSampleBatch P G) :
    (s.publishSamples request generation batch).logChunks = s.logChunks := by
  unfold publishSamples
  split <;> rfl

theorem mem_bind {s : WorkerState P G C} {binding : ResourceTelemetryBinding}
    {chunk : GameLogChunk C} (h : chunk ∈ (s.bind binding).logChunks) : chunk ∈ s.logChunks := by
  unfold WorkerState.bind at h
  split at h
  · exact h
  · simp only at h
    split at h
    · exact h
    · cases h

/-- **A chunk joins the queue** only as `QueuesBound` says. -/
theorem queuesBound_step {d : SampleSystem P G C} (h : d.Sound) (c : WorkerStep P G C) :
    QueuesBound d c := by
  intro chunk hchunk
  cases c with
  | bind binding => exact .inl (mem_bind hchunk)
  | clear => cases hchunk
  | takeGameLogChunks identity => cases hchunk
  | invalidateSamples =>
    change chunk ∈ d.worker.invalidateSamples.logChunks at hchunk
    unfold invalidateSamples at hchunk
    split at hchunk <;> exact .inl hchunk
  | request sampledAtNs =>
    change chunk ∈ (d.worker.request sampledAtNs).logChunks at hchunk
    unfold WorkerState.request at hchunk
    split at hchunk <;> exact .inl hchunk
  | stop =>
    change chunk ∈ d.worker.stop.logChunks at hchunk
    unfold WorkerState.stop at hchunk
    split at hchunk <;> exact .inl hchunk
  | take =>
    simp only [step] at hchunk
    split at hchunk
    · unfold take at hchunk
      split at hchunk
      · exact .inl hchunk
      · split at hchunk <;> exact .inl hchunk
    · exact .inl hchunk
  | resetDone =>
    simp only [step] at hchunk
    split at hchunk <;> exact .inl hchunk
  | look =>
    simp only [step] at hchunk
    split at hchunk <;> exact .inl hchunk
  | sample batch content =>
    simp only [step] at hchunk
    split at hchunk <;> exact .inl hchunk
  | fail =>
    simp only [step] at hchunk
    split at hchunk <;> exact .inl hchunk
  | finish =>
    simp only [step] at hchunk
    split at hchunk
    · split at hchunk <;> exact .inl hchunk
    · exact .inl hchunk
  | publish failure =>
    simp only [step] at hchunk
    split at hchunk
    · rename_i request generation resets batch content hphase
      have hjoined : chunk ∈ d.worker.logChunks ∨
          (d.worker.queues request = true ∧ chunk.binding = request.binding) := by
        cases failure with
        | beforeChunk => exact .inl hchunk
        | afterChunk => exact mem_queueChunk hchunk
        | none =>
          change chunk ∈ ((d.worker.queueChunk request (content.map fun content =>
            ⟨request.binding, content⟩)).publishSamples request generation batch).logChunks at hchunk
          rw [logChunks_publishSamples] at hchunk
          exact mem_queueChunk hchunk
      rcases hjoined with hold | ⟨hqueues, hbinding⟩
      · exact .inl hold
      · right
        simp only [queues, Bool.and_eq_true, Bool.not_eq_true', Option.any_eq_true] at hqueues
        obtain ⟨hreset, binding, hbound, hsession⟩ := hqueues
        refine ⟨⟨binding, hbound, by rw [hbinding]; exact hsession⟩, hreset, fun hstopped => ?_⟩
        have hresets := h.fresh resets (by rw [hphase]; rfl) hreset hstopped
        rw [hphase, hresets]
        rfl
    · exact .inl hchunk

theorem publicationSequence_queueChunk (s : WorkerState P G C) (request : ResourceSampleRequest)
    (chunk : Option (GameLogChunk C)) :
    (s.queueChunk request chunk).publicationSequence = s.publicationSequence ∧
      (s.queueChunk request chunk).accepts request = s.accepts request := by
  unfold queueChunk
  split
  · exact ⟨rfl, rfl⟩
  · exact ⟨rfl, rfl⟩

/-- The last publication number is that of the last publication. -/
theorem publications_step (d : SampleSystem P G C) (c : WorkerStep P G C) :
    (publications d c = [] ∧ (d.step c).worker.publicationSequence = d.worker.publicationSequence) ∨
      (publications d c = [(d.worker.publicationSequence + 1) % 2 ^ 64] ∧
        c = .publish .none ∧
        (d.step c).worker.publicationSequence = (d.worker.publicationSequence + 1) % 2 ^ 64) := by
  cases c with
  | bind binding =>
    left
    refine ⟨rfl, ?_⟩
    show (d.worker.bind binding).publicationSequence = _
    unfold WorkerState.bind
    split
    · rfl
    · simp only
      split <;> rfl
  | clear => exact .inl ⟨rfl, rfl⟩
  | takeGameLogChunks identity => exact .inl ⟨rfl, rfl⟩
  | invalidateSamples =>
    left
    refine ⟨rfl, ?_⟩
    show d.worker.invalidateSamples.publicationSequence = _
    unfold invalidateSamples
    split <;> rfl
  | request sampledAtNs =>
    left
    refine ⟨rfl, ?_⟩
    show (d.worker.request sampledAtNs).publicationSequence = _
    unfold WorkerState.request
    split <;> rfl
  | stop =>
    left
    refine ⟨rfl, ?_⟩
    show d.worker.stop.publicationSequence = _
    unfold WorkerState.stop
    split <;> rfl
  | take =>
    left
    refine ⟨rfl, ?_⟩
    simp only [step]
    split
    · unfold take
      split
      · rfl
      · split <;> rfl
    · rfl
  | resetDone =>
    left
    refine ⟨rfl, ?_⟩
    simp only [step]
    split <;> rfl
  | look =>
    left
    refine ⟨rfl, ?_⟩
    simp only [step]
    split <;> rfl
  | sample batch chunk =>
    left
    refine ⟨rfl, ?_⟩
    simp only [step]
    split <;> rfl
  | fail =>
    left
    refine ⟨rfl, ?_⟩
    simp only [step]
    split <;> rfl
  | finish =>
    left
    refine ⟨rfl, ?_⟩
    simp only [step]
    split
    · split <;> rfl
    · rfl
  | publish failure =>
    cases hphase : d.phase with
    | sampled request generation resets batch chunk =>
      obtain ⟨hsequence, haccepts⟩ := publicationSequence_queueChunk d.worker request
        (chunk.map fun content => ⟨request.binding, content⟩)
      cases failure with
      | beforeChunk =>
        left
        refine ⟨rfl, ?_⟩
        simp only [step, hphase]
        rfl
      | afterChunk =>
        left
        refine ⟨rfl, ?_⟩
        simp only [step, hphase]
        exact hsequence
      | none =>
        simp only [publications, step, hphase, publish, publishSamples, haccepts]
        split
        · right
          simp [hsequence]
        · exact .inl ⟨rfl, hsequence⟩
    | waiting =>
      left
      cases failure <;> simp [publications, step, hphase]
    | resetting =>
      left
      cases failure <;> simp [publications, step, hphase]
    | sampling request generation resets =>
      left
      cases failure <;> simp [publications, step, hphase]
    | looked request generation resets room =>
      left
      cases failure <;> simp [publications, step, hphase]
    | ended =>
      left
      cases failure <;> simp [publications, step, hphase]

/-- **The publications of a run** have increasing numbers, all above the last one before it. -/
theorem publications_increase : ∀ (steps : List (WorkerStep P G C)) (d : SampleSystem P G C),
    Along step InRange d steps →
    (emitted step publications d steps).Pairwise (· < ·) ∧
      ∀ n ∈ emitted step publications d steps, d.worker.publicationSequence < n
  | [], _, _ => ⟨.nil, by simp⟩
  | c :: rest, d, hal => by
    obtain ⟨hpairwise, habove⟩ := publications_increase rest (d.step c) hal.2
    rw [emitted_cons]
    rcases publications_step d c with ⟨hnone, hsame⟩ | ⟨hone, rfl, hnext⟩
    · rw [hnone, List.nil_append]
      rw [hsame] at habove
      exact ⟨hpairwise, habove⟩
    · have hrange : d.worker.publicationSequence + 1 < 2 ^ 64 := hal.1.2
      rw [Nat.mod_eq_of_lt hrange] at hone hnext
      rw [hnext] at habove
      rw [hone, List.singleton_append]
      refine ⟨List.pairwise_cons.mpr ⟨habove, hpairwise⟩, fun n hn => ?_⟩
      rcases List.mem_cons.mp hn with rfl | hn
      · exact Nat.lt_succ_self _
      · exact (Nat.lt_succ_self _).trans (habove n hn)

end SampleSystem

/-! ## 5. Runs -/

/-- **Resource samples never cross a binding**, in every run of calls and worker steps in which
the two counters do not go round: the published snapshot is of the current generation and
binding and the queued chunks are of its session, the publication numbers increase, and each
chunk joined the queue while its session was bound and no reset outstanding. -/
theorem samples_stay_bound (steps : List (WorkerStep P G C))
    (h : Along SampleSystem.step InRange {} steps) :
    Bound (exec SampleSystem.step {} steps).worker ∧
      (emitted SampleSystem.step publications {} steps).Pairwise (· < ·) ∧
      Along SampleSystem.step QueuesBound {} steps := by
  have hstart : SampleSystem.Sound ({} : SampleSystem P G C) := by
    refine ⟨⟨fun p hp => ?_, fun chunk hchunk => ?_⟩, fun hfailed => ?_, fun resets hresets => ?_⟩
    · cases hp
    · cases hchunk
    · cases hfailed
    · cases hresets
  refine ⟨?_, (SampleSystem.publications_increase steps {} h).1, ?_⟩
  · have hsound := exec_invariant_along (I := SampleSystem.Sound)
      (fun _ c hd hc => SampleSystem.sound_step hd c hc) steps _ hstart h
    exact hsound.bound
  · exact along_of_invariant (I := SampleSystem.Sound)
      (fun _ c hd hc => SampleSystem.sound_step hd c hc)
      (fun _ c hd _ => SampleSystem.queuesBound_step hd c) steps _ hstart h

instance (d : SampleSystem P G C) : ∀ c : WorkerStep P G C, Decidable (InRange d c)
  | .publish _ => inferInstanceAs (Decidable (_ ∧ _))
  | .bind _ | .invalidateSamples | .clear | .request _ | .takeGameLogChunks _ | .stop | .take
  | .resetDone | .look | .sample _ _ | .fail | .finish => isTrue trivial

/-- The process of a game, on its first adapter. -/
def gameBinding : ResourceTelemetryBinding :=
  { identity := ⟨42, 7⟩, adapterLuid := some 9 }

/-- A request is answered, and the log chunk it brought is queued. -/
def samplingRun : List (WorkerStep Unit Unit Unit) :=
  [.bind gameBinding, .request 5, .take, .resetDone, .take, .look,
    .sample { process := some () } (some ()), .publish .none]

theorem samples_stay_bound_samplingRun :
    Bound (exec SampleSystem.step {} samplingRun).worker ∧
      (emitted SampleSystem.step publications {} samplingRun).Pairwise (· < ·) ∧
      Along SampleSystem.step QueuesBound {} samplingRun :=
  samples_stay_bound samplingRun (by decide)

/-- A request is taken and published after so many invalidations. -/
def invalidatedRun (n : ℕ) : List (WorkerStep Unit Unit Unit) :=
  [.bind gameBinding, .take, .resetDone] ++ (List.replicate n .invalidateSamples ++
    [.request 5, .take, .sample {} none, .publish .none])

/-- The worker with a binding and a generation. -/
def boundWorker (generation : ℕ) : SampleSystem Unit Unit Unit :=
  { worker := { generation := generation, binding := some gameBinding }, resets := 1 }

theorem exec_invalidateSamples {generation : ℕ} (h : generation < 2 ^ 64) (n : ℕ) :
    exec SampleSystem.step (boundWorker generation) (List.replicate n .invalidateSamples) =
      boundWorker ((generation + n) % 2 ^ 64) := by
  induction n with
  | zero => rw [Nat.add_zero, Nat.mod_eq_of_lt h]; rfl
  | succ n ih =>
    have hnext : ((generation + n) % 2 ^ 64 + 1) % 2 ^ 64 = (generation + (n + 1)) % 2 ^ 64 := by
      omega
    rw [List.replicate_succ', exec_snoc, ih, ← hnext]
    rfl

/-- **With the generation back at zero** the published snapshot has no identity. -/
theorem zero_generation :
    (exec SampleSystem.step {} (invalidatedRun (2 ^ 64 - 1))).worker.published =
        some { publicationSequence := 1, processSampledAtNs := 5 } ∧
      (exec SampleSystem.step {} (invalidatedRun (2 ^ 64 - 1))).worker.binding =
        some gameBinding := by
  have hstart : exec SampleSystem.step {} [.bind gameBinding, .take, .resetDone] =
      boundWorker 1 := rfl
  have hzero : (1 + (2 ^ 64 - 1)) % 2 ^ 64 = 0 := by decide
  rw [invalidatedRun, exec_append, hstart, exec_append, exec_invalidateSamples (by decide), hzero]
  exact ⟨rfl, rfl⟩

end Kf2Optimizer.Telemetry
