/-
# The queued rollback

A rollback stays queued until its command has been carried out.  Three functions have to agree on
what that means: the one that queues a target, the selection that clamps it to the configured
range, and the receipt that compares the two (`rollbackDone`).

They agree because a queued target is never above the maximum (`InRange.target`), so the clamp can
only raise it.  From the dispatch of the rollback to its receipt nothing else is queued: a verdict
needs a confirmed window, and the window of the pending command is not.
-/
import Kf2Optimizer.Optimizer.Range
import Kf2Optimizer.Optimizer.Rollback

set_option linter.unusedSectionVars false

namespace Kf2Optimizer.Optimizer

open DoubleOps

variable {F : Type} [DoubleOps F]

namespace AdaptiveSession

variable {s : AdaptiveSession F}

/-! ## 1. What queues a rollback -/

/-- The call queues a rollback. -/
def queues (s : AdaptiveSession F) : SessionOp F → Bool
  | .observe result => (s.judged (.observe result)).isSome
  | .pollQuality (some .stateUnknown) _ => s.inFlight.isSome && s.pending.isSome
  | _ => false

/-- The rollback of `s` is the one of `t`, or it is cleared. -/
def Clears (t s : AdaptiveSession F) : Prop :=
  (s.rollbackTarget = t.rollbackTarget ∧ s.rollbackResource = t.rollbackResource) ∨
    (s.rollbackTarget = none ∧ s.rollbackResource = none)

theorem pollQuality_clears {outcome : Option AdaptiveControlReceiptStatus} {completedNs : ℕ}
    (h : s.queues (.pollQuality outcome completedNs) = false) :
    s.Clears (s.pollAdaptiveQualityDispatcher outcome completedNs) := by
  unfold pollAdaptiveQualityDispatcher
  cases hflight : s.inFlight with
  | none => exact .inl ⟨rfl, rfl⟩
  | some request =>
    cases hpending : s.pending with
    | none => exact .inl ⟨rfl, rfl⟩
    | some p =>
      cases outcome with
      | none => exact .inl ⟨rfl, rfl⟩
      | some status =>
        cases status with
        | restored => exact .inr ⟨rfl, rfl⟩
        | unsupported => exact .inl ⟨rfl, rfl⟩
        | stateUnknown => simp [queues, hflight, hpending] at h
        | applied =>
          simp only [settle]
          split
          · simp only [Clears, applyReceipt]
            by_cases hdone : s.rollbackDone request
            · exact .inr ⟨if_pos hdone, if_pos hdone⟩
            · exact .inl ⟨if_neg hdone, if_neg hdone⟩
          · exact .inl ⟨rfl, rfl⟩

theorem observe_clears {result : Option QualityResult}
    (h : s.judged (.observe result) = none) : s.Clears (s.step (.observe result)) := by
  cases result with
  | none =>
    simp only [step]
    split <;> exact .inl ⟨rfl, rfl⟩
  | some verdict =>
    simp only [step]
    split
    · exact .inl ⟨rfl, rfl⟩
    · rename_i hopen
      have hnone : s.feedback verdict = none := by
        unfold judged at h
        simp only at h
        rw [if_neg hopen] at h
        exact h
      unfold observeAdaptiveQualityResponse
      split
      · rename_i hverdict _
        cases hverdict
        split
        · exact .inl ⟨rfl, rfl⟩
        · rw [hnone]
          exact .inl ⟨rfl, rfl⟩
      · exact .inl ⟨rfl, rfl⟩

/-- **A call that queues nothing** keeps the queued rollback or clears it. -/
theorem step_clears {op : SessionOp F} (h : s.queues op = false) : s.Clears (s.step op) := by
  cases hquiet : quiet op with
  | true => exact (keeps_step hquiet).rollback
  | false =>
    cases op with
    | control c =>
      rcases s.updateAdaptiveController_cases c with ⟨t, ht⟩ | ⟨selected, n, t, a, -, -, ht⟩
      · simp only [step, ht]
        exact .inl ⟨rfl, rfl⟩
      · simp only [step, ht]
        exact .inl ⟨rfl, rfl⟩
    | pollQuality outcome completedNs => exact pollQuality_clears h
    | observe result => exact observe_clears (by simpa [queues] using h)
    | _ => cases hquiet

/-- Nothing is queued over the runs that queue nothing. -/
theorem exec_unqueued (ops : List (SessionOp F))
    (h : s.rollbackTarget = none ∧ s.rollbackResource = none)
    (halong : StepMachine.Along step (fun s op => s.queues op = false) s ops) :
    (StepMachine.exec step s ops).rollbackTarget = none ∧
      (StepMachine.exec step s ops).rollbackResource = none := by
  refine StepMachine.exec_invariant_along
    (I := fun s : AdaptiveSession F => s.rollbackTarget = none ∧ s.rollbackResource = none)
    (fun s op hnone hq => ?_) ops s h halong
  rcases step_clears hq with ⟨htarget, hresource⟩ | hcleared
  · rw [htarget, hresource]
    exact hnone
  · exact hcleared

/-! ## 2. The rollback in flight -/

/-- The pending command carries out whatever rollback is queued. -/
def Outstanding (s : AdaptiveSession F) (p : AdaptiveRuntimePendingRequest) : Prop :=
  (s.rollbackTarget = none ∧ s.rollbackResource = none) ∨
    ∃ target, s.rollbackTarget = some target ∧ s.rollbackResource = some p.resource ∧
      target ≤ p.requestedQuality

/-- **The selected rollback** is the queued one, and reaches its target. -/
theorem Sound.selected_rollback (hs : s.Sound) {c : ControlFrame F}
    {selected : AdaptiveRuntimeControlSelection} (h : s.selection c = some selected)
    (hkind : selectionKind (s.selectionInput c) = .rollback) :
    ∃ target, s.rollbackTarget = some target ∧ s.rollbackResource = some selected.resource ∧
      target ≤ selected.quality ∧
      (s.known = true → s.quality.controlQuality selected.resource < target) := by
  have hsafe := select_safe _ _ (selection_eq_some h).2.2
  have hqueued := hsafe.2.2
  rw [hkind] at hqueued
  simp only at hqueued
  cases htarget : s.rollbackTarget with
  | none =>
    simp [AdaptiveRuntimeControlInput.queuedRollback, selectionInput, htarget] at hqueued
  | some target =>
    cases hresource : s.rollbackResource with
    | none =>
      simp [AdaptiveRuntimeControlInput.queuedRollback, selectionInput, htarget, hresource]
        at hqueued
    | some resource =>
      simp only [AdaptiveRuntimeControlInput.queuedRollback, selectionInput, htarget, hresource,
        Option.some.injEq] at hqueued
      subst hqueued
      refine ⟨target, rfl, rfl, le_intClamp_of_le (hs.target target htarget) le_rfl, ?_⟩
      intro hknown
      unfold selectionKind at hkind
      split at hkind
      · rename_i hdue
        simp only [Bool.and_eq_true, Bool.or_eq_true, Bool.not_eq_true'] at hdue
        rcases hdue.2 with hunknown | hraises
        · have hfalse : s.known = false := hunknown
          rw [hknown] at hfalse
          cases hfalse
        · simpa [AdaptiveRuntimeControlInput.rollbackRaises, selectionInput, htarget, hresource]
            using hraises
      · split at hkind <;> cases hkind

/-- **What is outstanding stays so** while its command is pending. -/
theorem Sound.step_outstanding (hs : s.Sound) {p : AdaptiveRuntimePendingRequest}
    {op : SessionOp F} (hpending : s.pending = some p) (h : s.Outstanding p)
    (hstill : (s.step op).pending = some p) : (s.step op).Outstanding p := by
  cases hqueues : s.queues op with
  | false =>
    rcases step_clears hqueues with ⟨htarget, hresource⟩ | hcleared
    · unfold Outstanding
      rw [htarget, hresource]
      exact h
    · exact .inl hcleared
  | true =>
    cases op with
    | observe result =>
      -- a verdict needs a confirmed window, and the one that is open is not
      obtain ⟨taken, htaken⟩ := Option.isSome_iff_exists.mp hqueues
      obtain ⟨r, hr, hconfirmed, -⟩ := exists_of_judged htaken
      exact absurd ((hs.awaiting p hpending).window r hr).1 hconfirmed
    | pollQuality outcome completedNs =>
      have hflight : s.inFlight ≠ none := by
        rw [(hs.awaiting p hpending).request]
        simp
      have hnone := (pollQuality_quality hs outcome completedNs).2.1 hflight
      simp only [AdaptiveSession.step] at hstill
      rw [hnone] at hstill
      cases hstill
    | _ => cases hqueues

theorem Sound.exec_outstanding (hs : s.Sound) {p : AdaptiveRuntimePendingRequest}
    (ops : List (SessionOp F)) (h : s.Outstanding p)
    (halong : StepMachine.Along AdaptiveSession.step (fun s _ => s.pending = some p) s ops)
    (hstill : (StepMachine.exec AdaptiveSession.step s ops).pending = some p) :
    (StepMachine.exec AdaptiveSession.step s ops).Outstanding p := by
  have hinv := StepMachine.exec_invariant_along
    (I := fun s : AdaptiveSession F => s.Sound ∧ (s.pending = some p → s.Outstanding p))
    (fun s op hI hp => ⟨hI.1.step op, fun hnext => hI.1.step_outstanding hp (hI.2 hp) hnext⟩)
    ops s ⟨hs, fun _ => h⟩ halong
  exact hinv.2 hstill

/-- **The receipt of an outstanding rollback** clears the queue. -/
theorem Sound.applied_clears (hs : s.Sound) {p : AdaptiveRuntimePendingRequest}
    (hpending : s.pending = some p) (h : s.Outstanding p) {completedNs : ℕ}
    (happlies : s.applies (.pollQuality (some .applied) completedNs) = true) :
    (s.step (.pollQuality (some .applied) completedNs)).rollbackTarget = none ∧
      (s.step (.pollQuality (some .applied) completedNs)).rollbackResource = none := by
  have hflight := (hs.awaiting p hpending).request
  simp only [applies, hflight, hpending, decide_eq_true_eq] at happlies
  simp only [AdaptiveSession.step, pollAdaptiveQualityDispatcher, hflight, hpending, settle,
    if_pos happlies, applyReceipt]
  rcases h with ⟨htarget, hresource⟩ | ⟨target, htarget, hresource, hle⟩
  · rw [htarget, hresource]
    exact ⟨ite_self _, ite_self _⟩
  · have hdone : s.rollbackDone ⟨p.sequence, p.resource, p.requestedQuality⟩ = true := by
      simp [rollbackDone, htarget, hresource, hle]
    exact ⟨if_pos hdone, if_pos hdone⟩

theorem selectionKind_ne_rollback (h : s.rollbackTarget = none) (c : ControlFrame F) :
    selectionKind (s.selectionInput c) ≠ .rollback := by
  intro hkind
  unfold selectionKind at hkind
  have hnone : (s.selectionInput c).queuedRollback.isSome = false := by
    simp [AdaptiveRuntimeControlInput.queuedRollback, selectionInput, h]
  rw [hnone] at hkind
  simp only [Bool.false_and, Bool.false_eq_true, if_false] at hkind
  split at hkind <;> cases hkind

/-- The command a frame sends is its selection. -/
theorem pending_control (hs : s.Sound) {c : ControlFrame F}
    {selected : AdaptiveRuntimeControlSelection} (h : s.selection c = some selected)
    {p : AdaptiveRuntimePendingRequest} (hp : (s.step (.control c)).pending = some p) :
    p.resource = selected.resource ∧ p.requestedQuality = selected.quality := by
  rcases step_pending hs hp with hold | ⟨c', selected', hop, hsel, hresource, hquality⟩
  · -- nothing is selected while a command is in flight
    have hbridge := (select_safe _ _ (selection_eq_some h).2.2).1.bridge
    simp [selectionInput, (hs.awaiting p hold).request] at hbridge
  · cases hop
    rw [h] at hsel
    cases hsel
    exact ⟨hresource, hquality⟩

/-- What is outstanding after a frame that selected the queued rollback. -/
theorem Sound.outstanding_control (hs : s.Sound) {c : ControlFrame F}
    {selected : AdaptiveRuntimeControlSelection} (h : s.selection c = some selected)
    (hkind : selectionKind (s.selectionInput c) = .rollback) {p : AdaptiveRuntimePendingRequest}
    (hp : (s.step (.control c)).pending = some p) : (s.step (.control c)).Outstanding p := by
  obtain ⟨target, htarget, hresource, hle, -⟩ := hs.selected_rollback h hkind
  obtain ⟨hpres, hpq⟩ := pending_control hs h hp
  have hkept : (s.step (.control c)).rollbackTarget = s.rollbackTarget ∧
      (s.step (.control c)).rollbackResource = s.rollbackResource := by
    rcases s.updateAdaptiveController_cases c with ⟨t, ht⟩ | ⟨sel, n, t, a, -, -, ht⟩
    · unfold AdaptiveSession.step
      simp only [ht]
      exact ⟨trivial, trivial⟩
    · unfold AdaptiveSession.step
      simp only [ht]
      exact ⟨rfl, rfl⟩
  refine .inr ⟨target, ?_, ?_, ?_⟩
  · rw [hkept.1, htarget]
  · rw [hkept.2, hresource, hpres]
  · rw [hpq]
    exact hle

end AdaptiveSession

/-! ## 3. Every run -/

/-- **Queued rollbacks finish.**  In every run, a rollback that is selected while the composition
is known strictly raises the level of its control; and once its command, pending throughout, is
confirmed as applied by a receipt the tracker accepts, the queue is empty and no rollback is due
until another is queued. -/
theorem queued_rollback_finishes (settings : QualitySettings) (enabled : Bool)
    (before : List (SessionOp F)) (c : AdaptiveSession.ControlFrame F)
    (selected : AdaptiveRuntimeControlSelection)
    (h : (AdaptiveSession.run settings enabled before).selection c = some selected)
    (hkind : selectionKind ((AdaptiveSession.run settings enabled before).selectionInput c) =
      .rollback) :
    ((AdaptiveSession.run settings enabled before).known = true →
      (AdaptiveSession.run settings enabled before).quality.controlQuality selected.resource <
        selected.quality) ∧
    ∀ (p : AdaptiveRuntimePendingRequest) (between later : List (SessionOp F)) (completedNs : ℕ),
      let sent := (AdaptiveSession.run settings enabled before).step (.control c)
      let answered := StepMachine.exec AdaptiveSession.step sent between
      let settled := answered.step (.pollQuality (some .applied) completedNs)
      sent.pending = some p →
      StepMachine.Along AdaptiveSession.step (fun s _ => s.pending = some p) sent between →
      answered.pending = some p →
      answered.applies (.pollQuality (some .applied) completedNs) = true →
      StepMachine.Along AdaptiveSession.step (fun s op => s.queues op = false) settled later →
      (StepMachine.exec AdaptiveSession.step settled later).rollbackTarget = none ∧
        ∀ c', selectionKind
          ((StepMachine.exec AdaptiveSession.step settled later).selectionInput c') ≠
            .rollback := by
  have hs := AdaptiveSession.run_sound (F := F) settings enabled before
  generalize AdaptiveSession.run settings enabled before = s at h hkind hs ⊢
  constructor
  · obtain ⟨target, -, -, hle, hraises⟩ := hs.selected_rollback h hkind
    exact fun hknown => (hraises hknown).trans_le hle
  · intro p between later completedNs sent answered settled hp halong hstill happlies hlater
    have hsent : sent.Sound := hs.step (.control c)
    have hout : answered.Outstanding p :=
      hsent.exec_outstanding between (hs.outstanding_control h hkind hp) halong hstill
    have hanswered : answered.Sound :=
      StepMachine.exec_invariant (I := fun s : AdaptiveSession F => s.Sound)
        (fun _ op ht => ht.step op) between sent hsent
    have hcleared := hanswered.applied_clears hstill hout happlies
    obtain ⟨hnone, -⟩ := AdaptiveSession.exec_unqueued later hcleared hlater
    exact ⟨hnone, fun c' => AdaptiveSession.selectionKind_ne_rollback hnone c'⟩

/-- A reduction of the GPU control that is judged as not improving. -/
def gpuJudged : List (SessionOp ℚ) :=
  Recorded.gpuReduced ++ [.observe (some .noClearChange)]

/-- The frame on which its rollback is due. -/
def rollbackFrame (seconds : ℕ) : AdaptiveSession.ControlFrame ℚ :=
  Recorded.pressedFrame .gpu (3 / 4) seconds

/-- The command of that rollback. -/
def rollbackPending : AdaptiveRuntimePendingRequest where
  sequence := 3
  actionId := 2
  generation := {}
  previousQuality := 90
  requestedQuality := 100
  resource := .gpu

theorem queued_rollback_finishes_gpu :
    (90 : ℤ) < 100 ∧
    (AdaptiveSession.run Recorded.defaultSettings true gpuJudged).rollbackTarget = some 100 ∧
    (((AdaptiveSession.run Recorded.defaultSettings true gpuJudged).step
      (.control (rollbackFrame 70))).step
        (.pollQuality (some .applied) 70500000000)).rollbackTarget = none := by
  have hlaw := queued_rollback_finishes Recorded.defaultSettings true gpuJudged (rollbackFrame 70)
    ⟨.gpu, 100⟩ (by decide +kernel) (by decide +kernel)
  have hlevel : (AdaptiveSession.run Recorded.defaultSettings true
      gpuJudged).quality.controlQuality .gpu = 90 := by decide +kernel
  refine ⟨?_, by decide +kernel, ?_⟩
  · rw [← hlevel]
    exact hlaw.1 (by decide +kernel)
  · exact (hlaw.2 rollbackPending [] [] 70500000000 (by decide +kernel) trivial (by decide +kernel)
      (by decide +kernel) trivial).1

/-- **A receipt from before a rebase** is refused: the user changes the target FPS while the
rollback is in flight, KF2 applies it, and it is still queued and selected again. -/
theorem stale_rollback_repeated :
    (AdaptiveSession.run Recorded.defaultSettings true gpuJudged).selection (rollbackFrame 70) =
      some ⟨.gpu, 100⟩ ∧
    selectionKind ((AdaptiveSession.run Recorded.defaultSettings true gpuJudged).selectionInput
      (rollbackFrame 70)) = .rollback ∧
    (AdaptiveSession.run Recorded.defaultSettings true (gpuJudged ++
      [.control (rollbackFrame 70), .actuate (.rebase { settings := 1 } 70200000000),
        .pollQuality (some .applied) 70500000000])).rollbackTarget = some 100 ∧
    (AdaptiveSession.run Recorded.defaultSettings true (gpuJudged ++
      [.control (rollbackFrame 70), .actuate (.rebase { settings := 1 } 70200000000),
        .pollQuality (some .applied) 70500000000])).selection (rollbackFrame 80) =
      some ⟨.gpu, 100⟩ := by
  decide +kernel

end Kf2Optimizer.Optimizer
