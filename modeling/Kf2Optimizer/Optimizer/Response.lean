/-
# The response to a quality change

`QualityResponse` (`quality_response.hpp`) watches what a quality change does to the frame
statistics: it takes a window before the command, waits for the command to be confirmed, takes a
window afterwards and reports how the two compare.  What happens in between can spoil the
comparison; `invalid` is the text of what did, empty while nothing has.

`conclusive_report` is what a report that names a result vouches for.  The invariant behind it
(`Follows`) relates the pending change to the operations since its `begin`: as long as `invalid`
is empty, or says that only the first window is missing, nothing in them was out of line.
-/
import Kf2Optimizer.Optimizer.Session
import Kf2Optimizer.Telemetry.FrameMetrics

set_option linter.unusedSectionVars false

namespace Kf2Optimizer.Optimizer

open DoubleOps Telemetry

variable {F : Type} [DoubleOps F]

/-! ## 1. Data -/

/-- `QualityResponse::Context`. -/
structure ResponseContext where
  identity : SampleIdentity := {}
  map : String := ""
  adapter : Option ℕ := none
  target : ℤ := 0
  living : Option ℤ := none
  corpses : Option ℤ := none
  ready : Bool := false
deriving DecidableEq

/-- `QualityResponse::Report`; there is no result before the windows have been compared. -/
structure ResponseReport (F : Type) where
  sequence : ℕ
  resource : String
  fromQuality : ℤ
  toQuality : ℤ
  result : Option QualityResult := none
  before : Window F
  after : Window F := {}
deriving DecidableEq

/-- `QualityResponse::SceneSample`. -/
structure SceneSample where
  timestampNs : ℕ
  living : Option ℤ
  corpses : Option ℤ
deriving DecidableEq

/-- `QualityResponse::Pending`. -/
structure ResponsePending (F : Type) where
  report : ResponseReport F
  context : ResponseContext
  requested : ℕ
  applied : ℕ := 0
  invalid : String := ""
deriving DecidableEq

structure QualityResponse (F : Type) where
  pending : Option (ResponsePending F) := none
  baselineContext : ResponseContext := {}
  sceneHistory : List SceneSample := []
  contextSince : ℕ := 0
  lastObserved : ℕ := 0
deriving DecidableEq

/-- The arguments of `begin`. -/
structure ResponseBegin (F : Type) where
  sequence : ℕ
  resource : String
  fromQuality : ℤ
  toQuality : ℤ
  requested : ℕ
  context : ResponseContext
  before : Window F
deriving DecidableEq

def responseWindowNs : ℕ := 5000000000
def responseSettleNs : ℕ := 1000000000
def deliveryGraceNs : ℕ := 1000000000
def observationGapNs : ℕ := 500000000

/-- `end_ns`. -/
def ResponsePending.endNs (p : ResponsePending F) : ℕ :=
  if p.applied = 0 then 0 else u64 (p.applied + responseSettleNs + responseWindowNs)

/-! ## 2. Scenes -/

/-- Within two, or a fifth of the first. -/
def nearby (F : Type) [DoubleOps F] (a b : ℤ) : Bool :=
  le (DoubleOps.abs (sub (ofInt a : F) (ofInt b)))
    (DoubleOps.max (ofRat 2) (mul (ofInt a) (ofRat (1 / 5))))

/-- The `similar` of `begin`. -/
def similarBaseline (F : Type) [DoubleOps F] : Option ℤ → Option ℤ → Bool
  | some a, some b => nearby F a b
  | _, _ => false

/-- The `similar` of `observe`, which takes no negative counts. -/
def similar (F : Type) [DoubleOps F] : Option ℤ → Option ℤ → Bool
  | some a, some b => decide (0 ≤ a) && decide (0 ≤ b) && nearby F a b
  | _, _ => false

namespace QualityResponse

/-- The scenes of the last window, with the newest of the older ones. -/
def dropStale (nowNs : ℕ) : List SceneSample → List SceneSample
  | a :: b :: rest =>
    if responseWindowNs ≤ nowNs ∧ b.timestampNs < nowNs - responseWindowNs then
      dropStale nowNs (b :: rest)
    else a :: b :: rest
  | l => l

/-! ## 3. Operations -/

/-- Whether a scene of the window before `requested` is unlike the scene of the command. -/
def unstableScene (F : Type) [DoubleOps F] (context : ResponseContext) (requested : ℕ)
    (entry : SceneSample) : Bool :=
  !(decide (responseWindowNs ≤ requested) &&
      decide (entry.timestampNs < requested - responseWindowNs)) &&
    (!similarBaseline F context.living entry.living ||
      !similarBaseline F context.corpses entry.corpses)

/-- What is wrong with the comparison from the start: the last of the checks that fail. -/
def invalidAtBegin (q : QualityResponse F) (b : ResponseBegin F) : String :=
  if q.sceneHistory.any (unstableScene F b.context b.requested) then "unstable_baseline_scene"
  else if q.contextSince = 0 ∨ b.requested < q.contextSince ∨
      b.requested - q.contextSince < responseWindowNs then
    "unstable_baseline_context"
  else if ¬ b.context.ready ∨ ¬ b.before.complete then "incomplete_baseline"
  else ""

def begin_ (q : QualityResponse F) (b : ResponseBegin F) : QualityResponse F :=
  { q with
    pending := some
      { report :=
          { sequence := b.sequence
            resource := b.resource
            fromQuality := b.fromQuality
            toQuality := b.toQuality
            before := b.before }
        context := b.context
        requested := b.requested
        invalid := q.invalidAtBegin b } }

def confirm (q : QualityResponse F) (sequence at_ : ℕ) : QualityResponse F :=
  match q.pending with
  | none => q
  | some p =>
    if p.report.sequence = sequence ∧ p.requested ≤ at_ ∧ p.applied = 0 then
      { q with pending := some { p with applied := at_ } }
    else q

def refreshBaseline (q : QualityResponse F) (nowNs : ℕ) (before : Window F) :
    QualityResponse F :=
  match q.pending with
  | none => q
  | some p =>
    if p.invalid ≠ "incomplete_baseline" ∨ nowNs < p.requested ∨
        deliveryGraceNs < nowNs - p.requested ∨ ¬ before.complete ∨
        before.generation ≠ p.report.before.generation ∨
        before.streamId ≠ p.report.before.streamId then
      q
    else
      { q with
        pending := some { p with report := { p.report with before := before }, invalid := "" } }

/-- `cancel`: an action that was not confirmed is never reported. -/
def cancel (q : QualityResponse F) (reason : String) :
    QualityResponse F × Option (ResponseReport F) :=
  match q.pending with
  | none => (q, none)
  | some p =>
    ({ q with pending := none },
      if p.applied = 0 then none
      else some { p.report with result := some (.inconclusive reason) })

/-- The context in front of which there was an observation of another, or none. -/
def contextBroken (q : QualityResponse F) (current : ResponseContext) (nowNs : ℕ) : Bool :=
  decide (q.contextSince = 0) || decide (nowNs < q.lastObserved) ||
    decide (observationGapNs < nowNs - q.lastObserved) ||
    decide (current.identity ≠ q.baselineContext.identity) ||
    decide (current.map ≠ q.baselineContext.map) ||
    decide (current.adapter ≠ q.baselineContext.adapter) ||
    decide (current.target ≠ q.baselineContext.target) ||
    !similar F current.living q.baselineContext.living ||
    !similar F current.corpses q.baselineContext.corpses

/-- The part of `observe` in front of the pending change. -/
def track (q : QualityResponse F) (current : ResponseContext) (nowNs : ℕ) : QualityResponse F :=
  let unready := ¬ current.ready ∨ current.living = none ∨ current.corpses = none
  let broken := q.contextBroken current nowNs
  let history :=
    dropStale nowNs (q.sceneHistory ++ [⟨nowNs, current.living, current.corpses⟩])
  let since := if unready then 0 else if broken then nowNs else q.contextSince
  { q with
    baselineContext := if ¬ unready ∧ broken then current else q.baselineContext
    sceneHistory := if 256 < history.length then history.tail else history
    contextSince := if 256 < history.length then nowNs else since
    lastObserved := nowNs }

/-- `sampling_gap`. -/
def samplingGap (q : QualityResponse F) (nowNs : ℕ) : Bool :=
  decide (q.lastObserved ≠ 0) &&
    (decide (nowNs < q.lastObserved) || decide (observationGapNs < nowNs - q.lastObserved))

/-- The comparison of the two windows. -/
def compareWindows (a b : FrameMetrics F) : QualityResult :=
  match a.p95Ms, b.p95Ms, a.onePercentLowFps, b.onePercentLowFps, a.averageFps, b.averageFps with
  | some ap95, some bp95, some alow, some blow, some aavg, some bavg =>
    let p95Gain := div (sub ap95 bp95) ap95
    let lowGain := div (sub blow alow) alow
    let avgGain := div (sub bavg aavg) aavg
    let signals := [p95Gain, lowGain, avgGain].countP fun gain => le (ofRat (1 / 20)) gain
    let better := decide (2 ≤ signals)
    let worse := [p95Gain, lowGain, avgGain].any fun gain => le gain (ofRat (-1 / 20))
    if better && worse then .mixed
    else if better then .improved
    else if worse then .worsened
    else .noClearChange
  | _, _, _, _, _, _ => .inconclusive "missing_metrics"

/-- Whether an observation is of another context than the command's. -/
def contextChanged (p : ResponsePending F) (current : ResponseContext) (nowNs : ℕ) : Bool :=
  !current.ready || decide (current.identity ≠ p.context.identity) ||
    decide (current.map ≠ p.context.map) || decide (current.adapter ≠ p.context.adapter) ||
    decide (current.target ≠ p.context.target) || decide (nowNs < p.requested)

/-- The comparison, when the windows are over and nothing has spoiled them. -/
def conclude (q : QualityResponse F) (p : ResponsePending F) (nowNs : ℕ)
    (after : Window F) : QualityResponse F × Option (ResponseReport F) :=
  if ¬ after.complete ∧ nowNs - p.endNs < deliveryGraceNs then (q, none)
  else if deliveryGraceNs < nowNs - p.endNs ∨ ¬ after.complete then
    q.cancel "incomplete_post_window"
  else if p.report.before.streamId ≠ after.streamId then q.cancel "present_stream_changed"
  else if p.report.before.generation ≠ after.generation then
    q.cancel "present_source_interrupted"
  else
    ({ q with pending := none },
      some { p.report with
        after := after
        result := some (compareWindows p.report.before.metrics after.metrics) })

/-- The end of `observe`, after the checks. -/
def finish (q : QualityResponse F) (p : ResponsePending F) (nowNs : ℕ) (after : Window F) :
    QualityResponse F × Option (ResponseReport F) :=
  if p.applied = 0 ∨ nowNs < p.endNs then (q, none)
  else if p.invalid ≠ "" then q.cancel p.invalid
  else q.conclude p nowNs after

/-- The part of `observe` about the pending change, after `sampling_gap`. -/
def judge (q : QualityResponse F) (p : ResponsePending F) (current : ResponseContext) (nowNs : ℕ)
    (after : Window F) : QualityResponse F × Option (ResponseReport F) :=
  if contextChanged p current nowNs then
    if p.applied = 0 then
      ({ q with pending := some { p with invalid := "context_changed" } }, none)
    else { q with pending := some p }.cancel "context_changed"
  else
    let p :=
      if !similar F p.context.living current.living ||
          !similar F p.context.corpses current.corpses then
        { p with invalid := "scene_changed_or_unknown" }
      else p
    { q with pending := some p }.finish p nowNs after

def observe (q : QualityResponse F) (current : ResponseContext) (nowNs : ℕ)
    (after : Window F) : QualityResponse F × Option (ResponseReport F) :=
  let tracked := q.track current nowNs
  match q.pending with
  | none => (tracked, none)
  | some p =>
    let p := if q.samplingGap nowNs then { p with invalid := "observation_gap" } else p
    tracked.judge p current nowNs after

/-! ## 4. Runs -/

end QualityResponse

inductive ResponseOp (F : Type)
  | begin_ (b : ResponseBegin F)
  | confirm (sequence at_ : ℕ)
  | refreshBaseline (nowNs : ℕ) (before : Window F)
  | cancel (reason : String)
  | observe (current : ResponseContext) (nowNs : ℕ) (after : Window F)

def ResponseOp.isBegin : ResponseOp F → Bool
  | .begin_ _ => true
  | _ => false

namespace QualityResponse

/-- One operation, with the report it leads to. -/
def step (q : QualityResponse F) : ResponseOp F → QualityResponse F × Option (ResponseReport F)
  | .begin_ b => (q.begin_ b, none)
  | .confirm sequence at_ => (q.confirm sequence at_, none)
  | .refreshBaseline nowNs before => (q.refreshBaseline nowNs before, none)
  | .cancel reason => q.cancel reason
  | .observe current nowNs after => q.observe current nowNs after

def run (q : QualityResponse F) (ops : List (ResponseOp F)) : QualityResponse F :=
  StepMachine.exec (fun q op => (q.step op).1) q ops

/-- The reports of a run, in order. -/
def reports (q : QualityResponse F) (ops : List (ResponseOp F)) : List (ResponseReport F) :=
  StepMachine.emitted (fun q op => (q.step op).1) (fun q op => (q.step op).2.toList) q ops

theorem run_snoc (q : QualityResponse F) (ops : List (ResponseOp F)) (op : ResponseOp F) :
    q.run (ops ++ [op]) = ((q.run ops).step op).1 := StepMachine.exec_snoc _ _ _ _

theorem reports_snoc (q : QualityResponse F) (ops : List (ResponseOp F)) (op : ResponseOp F) :
    q.reports (ops ++ [op]) = q.reports ops ++ ((q.run ops).step op).2.toList :=
  StepMachine.emitted_snoc _ _ _ _ _

end QualityResponse

/-! ## 5. Since the begin -/

/-- The observations among the operations. -/
def observations : List (ResponseOp F) → List (ResponseContext × ℕ)
  | [] => []
  | .observe current nowNs _ :: rest => (current, nowNs) :: observations rest
  | _ :: rest => observations rest

theorem observations_append (l l' : List (ResponseOp F)) :
    observations (l ++ l') = observations l ++ observations l' := by
  induction l with
  | nil => rfl
  | cons op l ih => cases op <;> simp [observations, ih]

/-- The results that compare two windows. -/
def QualityResult.conclusive : QualityResult → Bool
  | .inconclusive _ => false
  | _ => true

/-- A report whose result is improved, worsened, mixed or without clear change. -/
def ResponseReport.conclusive (r : ResponseReport F) : Bool :=
  (r.result.map QualityResult.conclusive).getD false

/-- Two successive observations. -/
def Successive (s t : ℕ) : Prop := s ≤ t ∧ t - s ≤ observationGapNs

/-- Observations none of which was out of line with the begin. -/
structure Undisturbed (b : ResponseBegin F) (seen : List (ResponseContext × ℕ)) : Prop where
  identity : ∀ o ∈ seen, o.1.identity = b.context.identity
  map : ∀ o ∈ seen, o.1.map = b.context.map
  adapter : ∀ o ∈ seen, o.1.adapter = b.context.adapter
  target : ∀ o ∈ seen, o.1.target = b.context.target
  living : ∀ o ∈ seen, similar F b.context.living o.1.living = true
  corpses : ∀ o ∈ seen, similar F b.context.corpses o.1.corpses = true
  steady : (seen.map Prod.snd).IsChain Successive

/-- The texts of `invalid` that only say that the first window is missing, if anything. -/
def ResponsePending.Intact (p : ResponsePending F) : Prop :=
  p.invalid = "" ∨ p.invalid = "incomplete_baseline"

/-- What a pending change has to do with its begin and the operations since. -/
structure Follows (q : QualityResponse F) (b : ResponseBegin F) (since : List (ResponseOp F))
    (p : ResponsePending F) : Prop where
  sequence : p.report.sequence = b.sequence
  context : p.context = b.context
  requested : p.requested = b.requested
  confirmed : p.applied ≠ 0 → ∃ at_, .confirm b.sequence at_ ∈ since ∧ b.requested ≤ at_
  complete : p.invalid = "" → p.report.before.complete = true
  undisturbed : p.Intact → Undisturbed b (observations since)
  -- the gap check skips a last observation at time 0, which comes before any begin
  after_zero : p.Intact → 0 < b.requested
  after_request : p.Intact → ∀ o ∈ observations since, b.requested ≤ o.2
  last : ∀ o, (observations since).getLast? = some o → q.lastObserved = o.2

namespace QualityResponse

/-- The pending change after the checks of an observation. -/
def checked (q : QualityResponse F) (p : ResponsePending F) (current : ResponseContext)
    (nowNs : ℕ) : ResponsePending F :=
  if contextChanged p current nowNs then { p with invalid := "context_changed" }
  else if !similar F p.context.living current.living ||
      !similar F p.context.corpses current.corpses then
    { p with invalid := "scene_changed_or_unknown" }
  else if q.samplingGap nowNs then { p with invalid := "observation_gap" }
  else p

/-- What a report from a pending change is made of. -/
structure ReportOf (p checked : ResponsePending F) (r : ResponseReport F) : Prop where
  sequence : r.sequence = p.report.sequence
  conclusive : r.conclusive = true → checked.invalid = "" ∧ r.before = p.report.before ∧
    r.after.complete = true ∧ r.before.streamId = r.after.streamId ∧
    r.before.generation = r.after.generation

/-- What becomes of a pending change, and of its report. -/
def Outcome (p checked : ResponsePending F)
    (r : QualityResponse F × Option (ResponseReport F)) : Prop :=
  (r.1.pending = some checked ∧ r.2 = none) ∨
    (r.1.pending = none ∧ ∀ report, r.2 = some report →
      p.applied ≠ 0 ∧ ReportOf p checked report)

/-- A cancelled change is reported without a comparison. -/
theorem outcome_cancel {q : QualityResponse F} {p checked : ResponsePending F}
    (p' : ResponsePending F) (h : q.pending = some p') (hreport : p'.report = p.report) (happlied : p'.applied = p.applied)
    (reason : String) : Outcome p checked (q.cancel reason) := by
  refine .inr ?_
  simp only [cancel, h]
  refine ⟨trivial, fun report hr => ?_⟩
  by_cases hzero : p'.applied = 0
  · rw [if_pos hzero] at hr
    cases hr
  · rw [if_neg hzero] at hr
    cases hr
    refine ⟨happlied ▸ hzero, ⟨congrArg (·.sequence) hreport, fun hconclusive => ?_⟩⟩
    cases hconclusive

theorem outcome_conclude {q : QualityResponse F} {p checked : ResponsePending F}
    (h : q.pending = some checked) (hreport : checked.report = p.report)
    (happlied : checked.applied = p.applied) (hzero : p.applied ≠ 0)
    (hinvalid : checked.invalid = "") (nowNs : ℕ) (after : Window F) :
    Outcome p checked (q.conclude checked nowNs after) := by
  unfold conclude
  split
  · exact .inl ⟨h, rfl⟩
  · split
    · exact outcome_cancel checked h hreport happlied _
    · rename_i hcomplete
      split
      · exact outcome_cancel checked h hreport happlied _
      · rename_i hstream
        split
        · exact outcome_cancel checked h hreport happlied _
        · rename_i hgeneration
          refine .inr ⟨rfl, fun report hr => ⟨hzero, ?_⟩⟩
          cases hr
          refine ⟨congrArg (·.sequence) hreport, fun _ => ⟨hinvalid, congrArg (·.before) hreport,
            ?_, not_ne_iff.mp hstream, not_ne_iff.mp hgeneration⟩⟩
          simpa using (not_or.mp hcomplete).2

theorem outcome_finish {q : QualityResponse F} {p checked : ResponsePending F}
    (h : q.pending = some checked) (hreport : checked.report = p.report)
    (happlied : checked.applied = p.applied) (nowNs : ℕ) (after : Window F) :
    Outcome p checked (q.finish checked nowNs after) := by
  unfold finish
  split
  · exact .inl ⟨h, rfl⟩
  · rename_i hend
    split
    · exact outcome_cancel checked h hreport happlied _
    · rename_i hinvalid
      exact outcome_conclude h hreport happlied (happlied ▸ (not_or.mp hend).1)
        (not_ne_iff.mp hinvalid) nowNs after

/-- **An observation** checks the pending change, and keeps or ends it. -/
theorem outcome_observe {q : QualityResponse F} {p : ResponsePending F} (h : q.pending = some p)
    (current : ResponseContext) (nowNs : ℕ) (after : Window F) :
    Outcome p (q.checked p current nowNs) (q.observe current nowNs after) := by
  -- the gap text goes in first, and the later checks overwrite it
  obtain ⟨text, htext⟩ : ∃ text,
      (if q.samplingGap nowNs then { p with invalid := "observation_gap" } else p) =
        { p with invalid := text } := by
    split
    · exact ⟨_, rfl⟩
    · exact ⟨p.invalid, rfl⟩
  have hobserve : q.observe current nowNs after =
      (q.track current nowNs).judge { p with invalid := text } current nowNs after := by
    simp only [observe, h, htext]
  have hunchanged : contextChanged { p with invalid := text } current nowNs =
      contextChanged p current nowNs := rfl
  rw [hobserve, judge, hunchanged]
  by_cases hc : contextChanged p current nowNs
  · rw [if_pos hc]
    have hchecked : q.checked p current nowNs = { p with invalid := "context_changed" } := by
      rw [checked, if_pos hc]
    rw [hchecked]
    split
    · exact .inl ⟨rfl, rfl⟩
    · refine outcome_cancel { p with invalid := text } ?_ ?_ ?_ _ <;> rfl
  · rw [if_neg hc]
    have hchecked : q.checked p current nowNs =
        if !similar F p.context.living current.living ||
            !similar F p.context.corpses current.corpses then
          { p with invalid := "scene_changed_or_unknown" }
        else { p with invalid := text } := by
      rw [checked, if_neg hc, htext]
    rw [hchecked]
    split
    · refine outcome_finish ?_ ?_ ?_ nowNs after <;> rfl
    · refine outcome_finish ?_ ?_ ?_ nowNs after <;> rfl

/-- Without a pending change there is nothing to report. -/
theorem step_idle {q : QualityResponse F} (h : q.pending = none) {op : ResponseOp F}
    (hop : op.isBegin = false) : (q.step op).1.pending = none ∧ (q.step op).2 = none := by
  cases op with
  | begin_ b => cases hop
  | confirm sequence at_ => simp [step, confirm, h]
  | refreshBaseline nowNs before => simp [step, refreshBaseline, h]
  | cancel reason => simp [step, cancel, h]
  | observe current nowNs after => simp [step, observe, track, h]

theorem confirm_cases {q : QualityResponse F} {p : ResponsePending F} (h : q.pending = some p)
    (sequence at_ : ℕ) :
    q.confirm sequence at_ = q ∨ (p.report.sequence = sequence ∧ p.requested ≤ at_ ∧
      q.confirm sequence at_ = { q with pending := some { p with applied := at_ } }) := by
  simp only [confirm, h]
  by_cases hcond : p.report.sequence = sequence ∧ p.requested ≤ at_ ∧ p.applied = 0
  · rw [if_pos hcond]
    exact .inr ⟨hcond.1, hcond.2.1, rfl⟩
  · rw [if_neg hcond]
    exact .inl rfl

theorem refreshBaseline_cases {q : QualityResponse F} {p : ResponsePending F}
    (h : q.pending = some p) (nowNs : ℕ) (before : Window F) :
    q.refreshBaseline nowNs before = q ∨
      (p.invalid = "incomplete_baseline" ∧ before.complete = true ∧
        q.refreshBaseline nowNs before = { q with
          pending := some { p with report := { p.report with before := before }, invalid := "" } }) := by
  simp only [refreshBaseline, h]
  split
  · exact .inl rfl
  · rename_i hcond
    simp only [not_or, not_not, ne_eq] at hcond
    exact .inr ⟨hcond.1, hcond.2.2.2.1, rfl⟩

@[simp] theorem lastObserved_cancel (q : QualityResponse F) (reason : String) :
    (q.cancel reason).1.lastObserved = q.lastObserved := by
  unfold cancel
  split <;> rfl

@[simp] theorem lastObserved_conclude (q : QualityResponse F) (p : ResponsePending F) (nowNs : ℕ)
    (after : Window F) : (q.conclude p nowNs after).1.lastObserved = q.lastObserved := by
  unfold conclude
  repeat' split
  all_goals first | rfl | exact lastObserved_cancel q _

@[simp] theorem lastObserved_finish (q : QualityResponse F) (p : ResponsePending F) (nowNs : ℕ)
    (after : Window F) : (q.finish p nowNs after).1.lastObserved = q.lastObserved := by
  unfold finish
  repeat' split
  · rfl
  · exact lastObserved_cancel q _
  · exact lastObserved_conclude q p nowNs after

theorem lastObserved_observe (q : QualityResponse F) (current : ResponseContext) (nowNs : ℕ)
    (after : Window F) : (q.observe current nowNs after).1.lastObserved = nowNs := by
  have hjudge : ∀ p, ((q.track current nowNs).judge p current nowNs after).1.lastObserved =
      (q.track current nowNs).lastObserved := by
    intro p
    unfold judge
    split
    · split
      · rfl
      · exact lastObserved_cancel _ _
    · exact lastObserved_finish _ _ nowNs after
  unfold observe
  simp only
  split
  · rfl
  · exact hjudge _

end QualityResponse

/-! ## 6. The invariant -/

open QualityResponse

theorem not_intact (p : ResponsePending F) {text : String}
    (htext : text ≠ "" ∧ text ≠ "incomplete_baseline") : ¬ { p with invalid := text }.Intact :=
  fun h => h.elim htext.1 htext.2

/-- A change that is still intact after the checks passed all of them. -/
theorem intact_checked {q : QualityResponse F} {p : ResponsePending F} {current : ResponseContext}
    {nowNs : ℕ} (h : (q.checked p current nowNs).Intact) :
    q.checked p current nowNs = p ∧ contextChanged p current nowNs = false ∧
      similar F p.context.living current.living = true ∧
      similar F p.context.corpses current.corpses = true ∧ q.samplingGap nowNs = false := by
  unfold checked at h ⊢
  by_cases hc : contextChanged p current nowNs
  · rw [if_pos hc] at h
    exact absurd h (not_intact p (by decide))
  · rw [if_neg hc] at h ⊢
    by_cases hs : !similar F p.context.living current.living ||
        !similar F p.context.corpses current.corpses
    · rw [if_pos hs] at h
      exact absurd h (not_intact p (by decide))
    · rw [if_neg hs] at h ⊢
      by_cases hg : q.samplingGap nowNs
      · rw [if_pos hg] at h
        exact absurd h (not_intact p (by decide))
      · rw [if_neg hg]
        simp only [Bool.or_eq_true, Bool.not_eq_true', not_or, Bool.not_eq_false] at hs
        exact ⟨rfl, by simpa using hc, hs.1, hs.2, by simpa using hg⟩

/-- A begin that leaves the comparison possible. -/
theorem intact_begin {q : QualityResponse F} {b : ResponseBegin F}
    (h : q.invalidAtBegin b = "" ∨ q.invalidAtBegin b = "incomplete_baseline") :
    0 < b.requested ∧ (q.invalidAtBegin b = "" → b.before.complete = true) := by
  unfold invalidAtBegin at h ⊢
  by_cases hscene : q.sceneHistory.any (unstableScene F b.context b.requested)
  · rw [if_pos hscene] at h
    exact absurd h (by decide)
  · rw [if_neg hscene] at h ⊢
    by_cases hsince : q.contextSince = 0 ∨ b.requested < q.contextSince ∨
        b.requested - q.contextSince < responseWindowNs
    · rw [if_pos hsince] at h
      exact absurd h (by decide)
    · rw [if_neg hsince]
      refine ⟨by omega, fun hempty => ?_⟩
      by_cases hready : ¬ b.context.ready ∨ ¬ b.before.complete
      · rw [if_pos hready] at hempty
        exact absurd hempty (by decide)
      · simpa using (not_or.mp hready).2

theorem follows_begin (q : QualityResponse F) (b : ResponseBegin F) {p : ResponsePending F}
    (h : (q.begin_ b).pending = some p) : Follows (q.begin_ b) b [] p := by
  cases h
  exact {
    sequence := rfl
    context := rfl
    requested := rfl
    confirmed := fun h => absurd rfl h
    complete := fun h => (intact_begin (.inl h)).2 h
    undisturbed := fun _ => ⟨by simp [observations], by simp [observations],
      by simp [observations], by simp [observations], by simp [observations],
      by simp [observations], .nil⟩
    after_zero := fun h => (intact_begin h).1
    after_request := by simp [observations]
    last := by simp [observations] }

/-- An operation that observes nothing and keeps the context. -/
theorem Follows.mono {q q' : QualityResponse F} {b : ResponseBegin F}
    {since : List (ResponseOp F)} {p p' : ResponsePending F} {op : ResponseOp F}
    (h : Follows q b since p) (hlast : q'.lastObserved = q.lastObserved)
    (hop : observations [op] = []) (hsequence : p'.report.sequence = p.report.sequence)
    (hcontext : p'.context = p.context) (hrequested : p'.requested = p.requested)
    (hconfirmed : p'.applied ≠ 0 → p.applied ≠ 0 ∨
      ∃ at_, op = .confirm b.sequence at_ ∧ b.requested ≤ at_)
    (hintact : p'.Intact → p.Intact)
    (hcomplete : p'.invalid = "" → p'.report.before.complete = true) :
    Follows q' b (since ++ [op]) p' := by
  have hseen : observations (since ++ [op]) = observations since := by
    rw [observations_append, hop, List.append_nil]
  exact {
    sequence := hsequence.trans h.sequence
    context := hcontext.trans h.context
    requested := hrequested.trans h.requested
    confirmed := fun happlied => by
      rcases hconfirmed happlied with hold | ⟨at_, rfl, hat⟩
      · obtain ⟨at_, hmem, hat⟩ := h.confirmed hold
        exact ⟨at_, List.mem_append_left _ hmem, hat⟩
      · exact ⟨at_, by simp, hat⟩
    complete := hcomplete
    undisturbed := fun hi => hseen ▸ h.undisturbed (hintact hi)
    after_zero := fun hi => h.after_zero (hintact hi)
    after_request := fun hi => hseen ▸ h.after_request (hintact hi)
    last := fun o ho => hlast.trans (h.last o (hseen ▸ ho)) }

/-- No gap in front of an observation since the begin. -/
theorem successive_of_samplingGap {q : QualityResponse F} {nowNs : ℕ}
    (h : q.samplingGap nowNs = false) (hlast : 0 < q.lastObserved) :
    Successive q.lastObserved nowNs := by
  unfold samplingGap at h
  have hne : q.lastObserved ≠ 0 := Nat.pos_iff_ne_zero.mp hlast
  simp only [hne, ne_eq, not_false_eq_true, decide_true, Bool.true_and, Bool.or_eq_false_iff,
    decide_eq_false_iff_not, Nat.not_lt] at h
  exact h

theorem QualityResponse.exists_checked (q : QualityResponse F) (p : ResponsePending F) (current : ResponseContext)
    (nowNs : ℕ) : ∃ text, q.checked p current nowNs = { p with invalid := text } := by
  unfold checked
  split
  · exact ⟨_, rfl⟩
  · split
    · exact ⟨_, rfl⟩
    · split
      · exact ⟨_, rfl⟩
      · exact ⟨p.invalid, rfl⟩

/-- The observations with one more that is in line with the begin. -/
theorem Undisturbed.snoc {b : ResponseBegin F} {seen : List (ResponseContext × ℕ)}
    (h : Undisturbed b seen) {current : ResponseContext} {nowNs : ℕ} {p : ResponsePending F}
    (hcontext : p.context = b.context) (hchanged : contextChanged p current nowNs = false)
    (hliving : similar F p.context.living current.living = true)
    (hcorpses : similar F p.context.corpses current.corpses = true)
    (hsteady : ∀ o, seen.getLast? = some o → Successive o.2 nowNs) :
    Undisturbed b (seen ++ [(current, nowNs)]) := by
  simp only [contextChanged, hcontext, Bool.or_eq_false_iff, decide_eq_false_iff_not,
    ne_eq, not_not] at hchanged
  obtain ⟨⟨⟨⟨⟨_, hidentity⟩, hmap⟩, hadapter⟩, htarget⟩, _⟩ := hchanged
  rw [hcontext] at hliving hcorpses
  have hall : ∀ {P : ResponseContext × ℕ → Prop}, (∀ o ∈ seen, P o) → P (current, nowNs) →
      ∀ o ∈ seen ++ [(current, nowNs)], P o := by
    intro P hseen hnew o ho
    rcases List.mem_append.mp ho with ho | ho
    · exact hseen o ho
    · rw [List.mem_singleton.mp ho]
      exact hnew
  refine ⟨hall h.identity hidentity, hall h.map hmap, hall h.adapter hadapter,
    hall h.target htarget, hall h.living hliving, hall h.corpses hcorpses, ?_⟩
  rw [List.map_append, List.isChain_append]
  refine ⟨h.steady, by simp, ?_⟩
  intro s hs t ht
  rw [List.getLast?_map] at hs
  obtain ⟨o, ho, rfl⟩ := Option.map_eq_some_iff.mp hs
  simp only [List.map_cons, List.map_nil, List.head?_cons, Option.mem_def, Option.some.injEq] at ht
  exact ht ▸ hsteady o ho

/-- **An observation in line with the begin** joins those before it. -/
theorem follows_observe {q q' : QualityResponse F} {b : ResponseBegin F}
    {since : List (ResponseOp F)} {p : ResponsePending F} (h : Follows q b since p)
    {current : ResponseContext} {nowNs : ℕ} (after : Window F) (hlast : q'.lastObserved = nowNs) :
    Follows q' b (since ++ [.observe current nowNs after]) (q.checked p current nowNs) := by
  have hseen : observations (since ++ [.observe current nowNs after]) =
      observations since ++ [(current, nowNs)] := observations_append _ _
  obtain ⟨text, htext⟩ := q.exists_checked p current nowNs
  exact {
    sequence := by rw [htext]; exact h.sequence
    context := by rw [htext]; exact h.context
    requested := by rw [htext]; exact h.requested
    confirmed := fun happlied => by
      obtain ⟨at_, hmem, hat⟩ := h.confirmed (by rw [htext] at happlied; exact happlied)
      exact ⟨at_, List.mem_append_left _ hmem, hat⟩
    complete := fun hempty => by
      obtain ⟨hself, _⟩ := intact_checked (.inl hempty)
      rw [hself] at hempty ⊢
      exact h.complete hempty
    undisturbed := fun hi => by
      obtain ⟨hself, hchanged, hliving, hcorpses, hgap⟩ := intact_checked hi
      rw [hself] at hi
      rw [hseen]
      refine (h.undisturbed hi).snoc h.context hchanged hliving hcorpses fun o ho => ?_
      have hmem : o ∈ observations since := List.mem_of_getLast? ho
      have hpos : 0 < o.2 := (h.after_zero hi).trans_le (h.after_request hi o hmem)
      rw [← h.last o ho] at hpos ⊢
      exact successive_of_samplingGap hgap hpos
    after_zero := fun hi => by
      obtain ⟨hself, _⟩ := intact_checked hi
      exact h.after_zero (hself ▸ hi)
    after_request := fun hi o ho => by
      obtain ⟨hself, hchanged, _⟩ := intact_checked hi
      rw [hself] at hi
      rw [hseen] at ho
      rcases List.mem_append.mp ho with ho | ho
      · exact h.after_request hi o ho
      · rw [List.mem_singleton.mp ho, ← h.requested]
        simp only [contextChanged, Bool.or_eq_false_iff, decide_eq_false_iff_not] at hchanged
        exact Nat.le_of_not_lt hchanged.2
    last := fun o ho => by
      rw [hseen, List.getLast?_concat] at ho
      cases ho
      exact hlast }

/-- A begin, silence, and a pending change that follows from them. -/
def Explained (ops : List (ResponseOp F)) (q : QualityResponse F) : Prop :=
  ∀ p, q.pending = some p → ∃ before b since, ops = before ++ .begin_ b :: since ∧
    (∀ op ∈ since, op.isBegin = false) ∧
    (({} : QualityResponse F).run (before ++ [.begin_ b])).reports since = [] ∧
    Follows q b since p

/-- **One step**: an operation without a report that keeps the change pending. -/
theorem Explained.snoc {ops : List (ResponseOp F)} {op : ResponseOp F} {p : ResponsePending F}
    (h : Explained ops (({} : QualityResponse F).run ops)) (hbegin : op.isBegin = false)
    (hp : (({} : QualityResponse F).run ops).pending = some p)
    (hreport : ((({} : QualityResponse F).run ops).step op).2 = none)
    {q' : QualityResponse F} {p' : ResponsePending F}
    (hfollows : ∀ b since, Follows (({} : QualityResponse F).run ops) b since p →
      Follows q' b (since ++ [op]) p') :
    ∃ before b since, ops ++ [op] = before ++ .begin_ b :: since ∧
      (∀ op ∈ since, op.isBegin = false) ∧
      (({} : QualityResponse F).run (before ++ [.begin_ b])).reports since = [] ∧
      Follows q' b since p' := by
  obtain ⟨before, b, since, rfl, hsince, hsilent, hold⟩ := h p hp
  refine ⟨before, b, since ++ [op], by simp, ?_, ?_, hfollows b since hold⟩
  · intro op' hop'
    rcases List.mem_append.mp hop' with hop' | hop'
    · exact hsince op' hop'
    · exact List.mem_singleton.mp hop' ▸ hbegin
  · have hrun : (({} : QualityResponse F).run (before ++ [.begin_ b])).run since =
        ({} : QualityResponse F).run (before ++ .begin_ b :: since) := by
      unfold run
      rw [← StepMachine.exec_append, List.append_assoc]
      rfl
    rw [reports_snoc, hsilent, hrun, hreport]
    rfl

/-- **Every run is explained.** -/
theorem explained_run (ops : List (ResponseOp F)) :
    Explained ops (({} : QualityResponse F).run ops) := by
  induction ops using List.reverseRecOn with
  | nil =>
    intro p hp
    cases hp
  | append_singleton ops op ih =>
    rw [run_snoc]
    intro p' hp'
    have hidle : op.isBegin = false → ∃ p, (({} : QualityResponse F).run ops).pending = some p := by
      intro hop
      refine Option.ne_none_iff_exists'.mp fun hnone => ?_
      exact absurd ((step_idle hnone hop).1.symm.trans hp') (by simp)
    cases op with
    | begin_ b => exact ⟨ops, b, [], rfl, by simp, rfl, follows_begin _ b hp'⟩
    | confirm sequence at_ =>
      obtain ⟨p, hp⟩ := hidle rfl
      refine ih.snoc rfl hp rfl fun b since hold => ?_
      simp only [step] at hp' ⊢
      rcases confirm_cases hp sequence at_ with hsame | ⟨hsequence, hat, hset⟩
      · rw [hsame] at hp' ⊢
        obtain rfl := Option.some.inj (hp.symm.trans hp')
        exact hold.mono rfl rfl rfl rfl rfl .inl id hold.complete
      · rw [hset] at hp' ⊢
        cases hp'
        exact hold.mono rfl rfl rfl rfl rfl
          (fun _ => .inr ⟨at_, by rw [← hsequence, hold.sequence], hold.requested ▸ hat⟩) id
          hold.complete
    | refreshBaseline nowNs before =>
      obtain ⟨p, hp⟩ := hidle rfl
      refine ih.snoc rfl hp rfl fun b since hold => ?_
      simp only [step] at hp' ⊢
      rcases refreshBaseline_cases hp nowNs before with hsame | ⟨hmissing, hcomplete, hset⟩
      · rw [hsame] at hp' ⊢
        obtain rfl := Option.some.inj (hp.symm.trans hp')
        exact hold.mono rfl rfl rfl rfl rfl .inl id hold.complete
      · rw [hset] at hp' ⊢
        cases hp'
        exact hold.mono rfl rfl rfl rfl rfl .inl (fun _ => .inr hmissing) fun _ => hcomplete
    | cancel reason =>
      have hnone : ((({} : QualityResponse F).run ops).cancel reason).1.pending = none := by
        unfold cancel
        split
        · assumption
        · rfl
      exact absurd (hnone.symm.trans hp') (by simp)
    | observe current nowNs after =>
      obtain ⟨p, hp⟩ := hidle rfl
      rcases outcome_observe hp current nowNs after with ⟨hkept, hsilent⟩ | ⟨hended, _⟩
      · obtain rfl := Option.some.inj (hkept.symm.trans hp')
        have hop : (ResponseOp.observe current nowNs after).isBegin = false := rfl
        exact ih.snoc hop hp hsilent fun b since hold =>
          follows_observe hold after (lastObserved_observe _ current nowNs after)
      · exact absurd (hended.symm.trans hp') (by simp)

/-! ## 7. Reports -/

/-- What a report vouches for: its begin, that it is the first report since, that the change was
confirmed, and, when it names a result, the windows and the observations since the begin. -/
structure Vouched (ops : List (ResponseOp F)) (op : ResponseOp F) (r : ResponseReport F)
    (before : List (ResponseOp F)) (b : ResponseBegin F) (since : List (ResponseOp F)) : Prop where
  split : ops = before ++ .begin_ b :: since
  last_begin : ∀ op ∈ since, op.isBegin = false
  first_report : (({} : QualityResponse F).run (before ++ [.begin_ b])).reports since = []
  sequence : r.sequence = b.sequence
  confirmed : ∃ at_, .confirm b.sequence at_ ∈ since ∧ b.requested ≤ at_
  windows : r.conclusive = true → r.before.complete = true ∧ r.after.complete = true ∧
    r.before.streamId = r.after.streamId ∧ r.before.generation = r.after.generation
  undisturbed : r.conclusive = true → Undisturbed b (observations (since ++ [op]))

/-- **Conclusive reports are sound**: each report belongs to the last begin, which has had no
report before, and whose change was confirmed since; and one that names a result compares two
complete windows of one stream and generation, with nothing observed out of line since. -/
theorem conclusive_report (ops : List (ResponseOp F)) (op : ResponseOp F) (r : ResponseReport F)
    (h : ((({} : QualityResponse F).run ops).step op).2 = some r) :
    ∃ before b since, Vouched ops op r before b since := by
  have hpending : (({} : QualityResponse F).run ops).pending ≠ none := by
    intro hnone
    cases hop : op.isBegin with
    | true => cases op <;> simp [ResponseOp.isBegin, step] at hop h
    | false => exact absurd ((step_idle hnone hop).2.symm.trans h) (by simp)
  obtain ⟨p, hp⟩ := Option.ne_none_iff_exists'.mp hpending
  obtain ⟨before, b, since, hsplit, hbegin, hsilent, hfollows⟩ := explained_run ops p hp
  refine ⟨before, b, since, ?_⟩
  have hvouched : ∀ checked, ReportOf p checked r → p.applied ≠ 0 →
      (checked.invalid = "" → p.invalid = "" ∧ Undisturbed b (observations (since ++ [op]))) →
      Vouched ops op r before b since := by
    intro checked hreport happlied hchecked
    exact {
      split := hsplit
      last_begin := hbegin
      first_report := hsilent
      sequence := hreport.sequence.trans hfollows.sequence
      confirmed := hfollows.confirmed happlied
      windows := fun hc => by
        obtain ⟨hinvalid, hbefore, hafter, hstream, hgeneration⟩ := hreport.conclusive hc
        exact ⟨hbefore ▸ hfollows.complete (hchecked hinvalid).1, hafter, hstream, hgeneration⟩
      undisturbed := fun hc => (hchecked (hreport.conclusive hc).1).2 }
  cases op with
  | begin_ b => cases h
  | confirm sequence at_ => cases h
  | refreshBaseline nowNs before => cases h
  | cancel reason =>
    -- a cancelled change is as good as a spoilt one
    have hout : Outcome p { p with invalid := "cancelled" }
        ((({} : QualityResponse F).run ops).cancel reason) := outcome_cancel p hp rfl rfl reason
    rcases hout with ⟨_, hnone⟩ | ⟨_, hreport⟩
    · exact absurd (hnone.symm.trans h) (by simp)
    · obtain ⟨happlied, hof⟩ := hreport r h
      exact hvouched _ hof happlied fun hinvalid =>
        absurd hinvalid (show ("cancelled" : String) ≠ "" by decide)
  | observe current nowNs after =>
    rcases outcome_observe hp current nowNs after with ⟨_, hnone⟩ | ⟨_, hreport⟩
    · exact absurd (hnone.symm.trans h) (by simp)
    · obtain ⟨happlied, hof⟩ := hreport r h
      refine hvouched _ hof happlied fun hinvalid => ?_
      have hnow : Follows _ b (since ++ [.observe current nowNs after])
          ((({} : QualityResponse F).run ops).checked p current nowNs) :=
        follows_observe hfollows after
          (lastObserved_observe (({} : QualityResponse F).run ops) current nowNs after)
      obtain ⟨hself, _⟩ := intact_checked (.inl hinvalid)
      exact ⟨hself ▸ hinvalid, hnow.undisturbed (.inl hinvalid)⟩

/-! ## 8. A reduction that helped -/

/-- A scene that stays as it is. -/
def steadyContext : ResponseContext where
  identity := ⟨4, 5⟩
  map := "KF-Outpost"
  adapter := some 9
  target := 60
  living := some 20
  corpses := some 10
  ready := true

def steadyWindow (p95Ms onePercentLowFps averageFps : ℚ) : Window ℚ where
  metrics :=
    { p95Ms := some p95Ms
      onePercentLowFps := some onePercentLowFps
      averageFps := some averageFps }
  streamId := 3
  generation := 8
  complete := true

/-- Twice a second, from the second `first` on. -/
def steadyObservations (first count : ℕ) : List (ResponseOp ℚ) :=
  (List.range count).map fun i => .observe steadyContext (first * 1000000000 + i * 500000000) {}

def reduction : ResponseBegin ℚ where
  sequence := 6
  resource := "gpu"
  fromQuality := 100
  toQuality := 90
  requested := 7000000000
  context := steadyContext
  before := steadyWindow 20 40 60

def helpfulRun : List (ResponseOp ℚ) :=
  steadyObservations 1 13 ++ [.begin_ reduction, .confirm 6 7100000000] ++ steadyObservations 7 13

def lastObservation : ResponseOp ℚ := .observe steadyContext 13100000000 (steadyWindow 16 50 61)

def helpfulReport : ResponseReport ℚ where
  sequence := 6
  resource := "gpu"
  fromQuality := 100
  toQuality := 90
  result := some .improved
  before := steadyWindow 20 40 60
  after := steadyWindow 16 50 61

theorem conclusive_report_helpful :
    ((({} : QualityResponse ℚ).run helpfulRun).step lastObservation).2 = some helpfulReport ∧
      ∃ before b since, Vouched helpfulRun lastObservation helpfulReport before b since := by
  have h : ((({} : QualityResponse ℚ).run helpfulRun).step lastObservation).2 =
      some helpfulReport := by decide +kernel
  exact ⟨h, conclusive_report helpfulRun lastObservation helpfulReport h⟩

end Kf2Optimizer.Optimizer
