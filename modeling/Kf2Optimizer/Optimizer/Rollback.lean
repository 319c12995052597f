/-
# The rollback of a reduction

A reduction that is applied and then judged non-improving is taken back: the verdict queues ONE
number, the level of the control before it, and the queued rollback sets every group the control
writes to that number.  `Recorded` runs the session beside a record of the composition the last
command was applied to, and `rollback_restores_iff` says exactly when the rollback gives that
composition back.
-/
import Kf2Optimizer.Optimizer.SessionSound

set_option linter.unusedSectionVars false

namespace Kf2Optimizer.Optimizer

open DoubleOps

variable {F : Type} [DoubleOps F]

namespace AdaptiveSession

variable {s : AdaptiveSession F}

/-! ## 1. The two calls a rollback is about -/

/-- The call applies the pending command: the receipt says so and the tracker accepts it. -/
def applies (s : AdaptiveSession F) : SessionOp F → Bool
  | .pollQuality (some .applied) completedNs =>
    match s.inFlight, s.pending with
    | some request, some p =>
      decide ((s.actuation.receive (appliedReceipt p request completedNs)).2 = .accepted)
    | _, _ => false
  | _ => false

/-- The call judges the last applied reduction as not improving: the control it was made with,
and the level of that control before it. -/
def judged (s : AdaptiveSession F) : SessionOp F → Option (AdaptiveResourceControl × ℤ)
  | .observe (some verdict) => if s.debt || !s.enabled then none else s.feedback verdict
  | _ => none

/-- **A reduction that is judged was applied, and lowered a control the feedback knows.** -/
theorem feedback_eq_some {verdict : QualityResult} {resource : AdaptiveResourceControl}
    {quality : ℤ} (h : s.feedback verdict = some (resource, quality)) :
    ∃ r, s.response = some r ∧ r.applied ≠ 0 ∧ r.toQuality < r.fromQuality ∧
      feedbackResource resource = some resource ∧ r.resource = resource ∧
      r.fromQuality = quality := by
  unfold feedback at h
  cases hresponse : s.response with
  | none => rw [hresponse] at h; cases h
  | some r =>
    rw [hresponse] at h
    simp only [adaptiveQualityResponseFeedback] at h
    split at h
    · cases h
    · rename_i happlied
      split at h
      · cases h
      · rename_i hlower
        split at h
        · cases h
        · rename_i parsed hparsed
          split at h
          · cases h
            have hsame : r.resource = resource := by
              cases hres : r.resource <;> simp_all [feedbackResource]
            refine ⟨r, rfl, happlied, not_le.mp hlower, ?_, hsame, rfl⟩
            rw [← hsame] at hparsed ⊢
            exact hparsed
          · cases h

theorem judged_eq_some {verdict : QualityResult} {resource : AdaptiveResourceControl}
    {quality : ℤ} (h : s.judged (.observe (some verdict)) = some (resource, quality)) :
    (s.debt || !s.enabled) = false ∧ s.feedback verdict = some (resource, quality) := by
  unfold judged at h
  simp only at h
  split at h
  · cases h
  · rename_i hopen
    exact ⟨Bool.eq_false_iff.mpr hopen, h⟩

theorem exists_of_judged {op : SessionOp F} {resource : AdaptiveResourceControl} {quality : ℤ}
    (h : s.judged op = some (resource, quality)) :
    ∃ r, s.response = some r ∧ r.applied ≠ 0 ∧ r.toQuality < r.fromQuality ∧
      feedbackResource resource = some resource ∧ r.resource = resource ∧
      r.fromQuality = quality := by
  cases op with
  | observe result =>
    cases result with
    | none => cases h
    | some verdict => exact feedback_eq_some (judged_eq_some h).2
  | _ => cases h

/-- A control the feedback knows writes some group. -/
theorem exists_writes {resource : AdaptiveResourceControl}
    (h : feedbackResource resource = some resource) : ∃ g, resource.writes g = true := by
  cases resource with
  | cpu => exact ⟨.cpu, rfl⟩
  | gpu => exact ⟨.gpu, rfl⟩
  | vram => exact ⟨.vram, rfl⟩
  | ram => exact ⟨.ram, rfl⟩
  | overdraw => exact ⟨.overdraw, rfl⟩
  | effects => exact ⟨.effects, rfl⟩
  | mixed => exact ⟨.cpu, rfl⟩
  | recover => cases h
  | enable => cases h
  | disable => cases h

/-! ## 2. What each call does to the window -/

@[simp] theorem pollMode_response (outcome : Option AdaptiveControlReceiptStatus) :
    (s.pollAdaptiveRuntimeMode outcome).response = s.response := by
  unfold pollAdaptiveRuntimeMode
  split
  · rfl
  · rfl
  · simp only
    split <;> rfl

@[simp] theorem leaveProvider_response : s.leaveProvider.response = s.response := by
  unfold leaveProvider
  simp only
  split
  · rfl
  · split <;> rfl

@[simp] theorem enterProvider_response (newProvider : Bool) :
    (s.enterProvider newProvider).response = s.response := by
  unfold enterProvider
  split
  · exact leaveProvider_response
  · rfl

@[simp] theorem attemptMode_response (c : ReconcileFrame) :
    (s.attemptMode c).response = s.response := by
  unfold attemptMode
  simp only
  split
  · rfl
  · split <;> rfl

@[simp] theorem reconcile_response (c : ReconcileFrame) :
    (s.reconcileAdaptiveRuntimeMode c).response = s.response := by
  unfold reconcileAdaptiveRuntimeMode
  split
  · rfl
  · simp only
    split
    · exact enterProvider_response c.newProvider
    · split
      · exact enterProvider_response c.newProvider
      · rw [attemptMode_response, enterProvider_response]

@[simp] theorem resetLocal_response (enabled : Bool) (nowNs : ℕ) :
    (s.resetLocalAdaptiveControllerForMode enabled nowNs).response = s.response := by
  unfold resetLocalAdaptiveControllerForMode
  split <;> rfl

@[simp] theorem reserveDebt_response (enabled : Bool) :
    (s.reserveDebt enabled).response = s.response := by
  unfold reserveDebt
  split <;> rfl

@[simp] theorem setLive_response (enabled : Bool) (live : LiveToggle) (nowNs : ℕ) :
    (s.setLiveAdaptiveEnabled enabled live nowNs).1.response = s.response := by
  cases live <;> simp [setLiveAdaptiveEnabled, confirmMode]

@[simp] theorem toggle_response (live : LiveToggle) (nowNs : ℕ) :
    (s.toggleAdaptiveOptimization live nowNs).response = s.response := by
  unfold toggleAdaptiveOptimization
  simp only
  split <;> simp

@[simp] theorem detachRestore_response (d : Detach) :
    (s.detachRestore d).response = s.response := by
  unfold detachRestore
  split
  · split
    · rfl
    · rename_i r hrestore hdebt
      cases r <;> rfl
  · rfl

@[simp] theorem detach_response (d : Detach) : (s.detachTelemetry d).response = s.response := by
  have hvoid : ((s.detachRestore d).voidDebt d.processCurrent).response = s.response := by
    unfold voidDebt
    split <;> simp
  unfold detachTelemetry
  simp only
  split <;> exact hvoid

@[simp] theorem bindProcess_response (sameProcess : Bool) :
    (s.bindProcess sameProcess).response = s.response := by
  unfold bindProcess
  split
  · rfl
  · split <;> rfl

@[simp] theorem prepareLaunch_response : s.prepareLaunch.response = s.response := by
  unfold prepareLaunch
  split <;> rfl

/-- **A confirmed window** is the one that was confirmed already, or the receipt of the pending
command has just confirmed it. -/
theorem step_response (hs : s.Sound) {op : SessionOp F} {r : QualityResponsePending}
    (h : (s.step op).response = some r) (hconfirmed : r.applied ≠ 0) :
    (s.applies op = false ∧ s.response = some r) ∨
      (s.applies op = true ∧ r.fromQuality = s.quality.controlQuality r.resource) := by
  cases op with
  | control c =>
    rcases s.updateAdaptiveController_cases c with ⟨t, ht⟩ | ⟨sel, n, t, a, -, -, ht⟩
    · simp only [step, ht] at h
      exact .inl ⟨rfl, h⟩
    · simp only [step, ht, send] at h
      cases h
      exact absurd rfl hconfirmed
  | pollQuality outcome completedNs =>
    simp only [step, pollAdaptiveQualityDispatcher] at h
    cases hflight : s.inFlight with
    | none =>
      rw [hflight] at h
      refine .inl ⟨?_, h⟩
      unfold applies
      split <;> simp_all
    | some request =>
      cases hpending : s.pending with
      | none =>
        rw [hflight, hpending] at h
        refine .inl ⟨?_, h⟩
        unfold applies
        split <;> simp_all
      | some p =>
        rw [hflight, hpending] at h
        have hawait := hs.awaiting p hpending
        -- a command is pending, so the window was not confirmed before
        have hopen : ∀ r', s.response = some r' → r' ≠ r := by
          rintro r' hr' rfl
          exact hconfirmed (hawait.window r' hr').1
        cases outcome with
        | none => exact absurd rfl (hopen r h)
        | some status =>
          cases status with
          | restored => cases h
          | stateUnknown => cases h
          | unsupported => cases h
          | applied =>
            simp only [settle] at h
            split at h
            · rename_i haccepted
              refine .inr ⟨?_, ?_⟩
              · simp only [applies, hflight, hpending, haccepted, decide_true]
              · simp only [applyReceipt, confirmResponse, Option.map_eq_some_iff] at h
                obtain ⟨r', hr', hconf⟩ := h
                obtain ⟨-, hres, hfrom⟩ := hawait.window r' hr'
                have hsame : r.resource = r'.resource ∧ r.fromQuality = r'.fromQuality := by
                  split at hconf <;> subst hconf <;> exact ⟨rfl, rfl⟩
                rw [hsame.1, hsame.2, hfrom, hres]
                exact hawait.previous
            · exact absurd rfl (hopen r h)
  | observe result =>
    refine .inl ⟨rfl, ?_⟩
    simp only [step] at h
    split at h
    · exact h
    · unfold observeAdaptiveQualityResponse at h
      split at h
      · split at h
        · exact h
        · split at h <;> cases h
      · exact h
  | frameRateModeChanged => cases h
  | pollMode outcome => exact .inl ⟨rfl, by simpa [step] using h⟩
  | reconcile c => exact .inl ⟨rfl, by simpa [step] using h⟩
  | toggle live nowNs => exact .inl ⟨rfl, by simpa [step] using h⟩
  | detach d => exact .inl ⟨rfl, by simpa [step] using h⟩
  | bindProcess sameProcess => exact .inl ⟨rfl, by simpa [step] using h⟩
  | prepareLaunch => exact .inl ⟨rfl, by simpa [step] using h⟩
  | restoreProtectedSession => exact .inl ⟨rfl, h⟩
  | mapReady nowNs => exact .inl ⟨rfl, h⟩
  | actuate op => exact .inl ⟨rfl, h⟩

end AdaptiveSession

/-! ## 3. The session beside its record -/

/-- A session, and the composition the last command was applied to. -/
structure Recorded (F : Type) where
  session : AdaptiveSession F
  before : AdaptiveResourceQualityState

namespace Recorded

/-- The record never influences the session. -/
def step (t : Recorded F) (op : SessionOp F) : Recorded F where
  session := t.session.step op
  before := if t.session.applies op then t.session.quality else t.before

/-- The recorded session after a list of calls on a new one. -/
def run (settings : QualitySettings) (enabled : Bool) (ops : List (SessionOp F)) : Recorded F :=
  StepMachine.exec step ⟨AdaptiveSession.init settings enabled, .reset 100⟩ ops

/-- The invariant: a confirmed window remembers the level of its control in the record. -/
structure Sound (t : Recorded F) : Prop where
  session : t.session.Sound
  window : ∀ r, t.session.response = some r → r.applied ≠ 0 →
    r.fromQuality = t.before.controlQuality r.resource

theorem Sound.step {t : Recorded F} (ht : t.Sound) (op : SessionOp F) : (t.step op).Sound where
  session := ht.session.step op
  window := by
    intro r hr hconfirmed
    rcases AdaptiveSession.step_response ht.session hr hconfirmed with ⟨hno, hold⟩ | ⟨hyes, hnew⟩
    · simp only [Recorded.step, hno, Bool.false_eq_true, if_false]
      exact ht.window r hold hconfirmed
    · simp only [Recorded.step, hyes, if_true]
      exact hnew

theorem run_sound (settings : QualitySettings) (enabled : Bool) (ops : List (SessionOp F)) :
    (run settings enabled ops).Sound := by
  refine StepMachine.exec_invariant (fun _ op ht => ht.step op) ops _ ⟨?_, ?_⟩
  · exact AdaptiveSession.sound_init settings enabled
  · rintro r ⟨⟩

/-! ## 4. When the rollback restores -/

/-- The condition: the control's groups were level with one another, the other groups still
hold what they held, and no rollback from above is queued already. -/
structure Restorable (t : Recorded F) (resource : AdaptiveResourceControl) : Prop where
  even : ∀ g g', resource.writes g = true → resource.writes g' = true →
    t.before.level g = t.before.level g'
  kept : ∀ g, resource.writes g = false → t.session.quality.level g = t.before.level g
  queued : ∀ target, t.session.rollbackTarget = some target →
    intClamp target t.session.settings.minimum t.session.settings.maximum ≤
      t.before.controlQuality resource

/-- The rollback a verdict queues. -/
theorem queuedRollback_judged {s : AdaptiveSession F} {verdict : QualityResult}
    {resource : AdaptiveResourceControl} {quality : ℤ}
    (h : s.judged (.observe (some verdict)) = some (resource, quality))
    (c : AdaptiveSession.ControlFrame F) :
    (((s.step (.observe (some verdict))).selectionInput c).queuedRollback = some
        ⟨resource, intClamp (Max.max (s.rollbackTarget.getD s.settings.minimum) quality)
          s.settings.minimum s.settings.maximum⟩) ∧
      (s.step (.observe (some verdict))).quality = s.quality := by
  obtain ⟨hopen, hfeedback⟩ := AdaptiveSession.judged_eq_some h
  obtain ⟨r, hr, happlied, -, -, -, -⟩ := AdaptiveSession.feedback_eq_some hfeedback
  have hstep : s.step (.observe (some verdict)) = { s with
      response := none
      floor := s.floor.apply { sequence := 0, resource := resource, quality := quality }
      rollbackTarget := some (Max.max (s.rollbackTarget.getD s.settings.minimum) quality)
      rollbackResource := some resource } := by
    simp only [AdaptiveSession.step, hopen, Bool.false_eq_true, if_false,
      AdaptiveSession.observeAdaptiveQualityResponse, hr, if_neg happlied, hfeedback]
  rw [hstep]
  exact ⟨rfl, rfl⟩

/-- Setting a control to the clamped maximum of an earlier target and the control's level gives
a composition back exactly when the control's groups were level, the others agree, and the
clamped target is not above that level. -/
theorem apply_rollback_iff {q before : AdaptiveResourceQualityState}
    {resource : AdaptiveResourceControl} (hknown : feedbackResource resource = some resource)
    {target minimum maximum : ℤ} (hten : 10 ≤ minimum) (hhundred : maximum ≤ 100)
    (hmin : minimum ≤ before.controlQuality resource)
    (hmax : before.controlQuality resource ≤ maximum) (sequence : ℕ) :
    q.apply { sequence := sequence, resource := resource, quality :=
        intClamp (Max.max target (before.controlQuality resource)) minimum maximum } = before ↔
      (∀ g g', resource.writes g = true → resource.writes g' = true →
        before.level g = before.level g') ∧
      (∀ g, resource.writes g = false → q.level g = before.level g) ∧
      intClamp target minimum maximum ≤ before.controlQuality resource := by
  obtain ⟨g₀, hg₀⟩ := AdaptiveSession.exists_writes hknown
  obtain ⟨g₁, hw₁, hg₁⟩ := before.exists_controlQuality_eq hg₀
  have hrecover : resource ≠ .recover := by rintro rfl; cases hknown
  generalize before.controlQuality resource = level at hmin hmax hg₁ ⊢
  have hvalue : intClamp (Max.max target level) minimum maximum =
      Max.max (intClamp target minimum maximum) level := by
    unfold intClamp
    split_ifs <;> omega
  have hexact : intClamp (intClamp (Max.max target level) minimum maximum) 10 100 =
      Max.max (intClamp target minimum maximum) level := by
    rw [intClamp_of_mem, hvalue]
    · exact hten.trans (le_intClamp (hmin.trans hmax))
    · exact (intClamp_le (hmin.trans hmax)).trans hhundred
  constructor
  · intro h
    have hwrites : ∀ g, resource.writes g = true →
        before.level g = Max.max (intClamp target minimum maximum) level := by
      intro g hg
      rw [← hexact, ← AdaptiveResourceQualityState.level_apply_of_writes q (r :=
        { sequence := sequence, resource := resource, quality :=
          intClamp (Max.max target level) minimum maximum }) hg, h]
    refine ⟨fun g g' hg hg' => (hwrites g hg).trans (hwrites g' hg').symm, fun g hg => ?_, ?_⟩
    · rw [← AdaptiveResourceQualityState.level_apply_of_not_writes q (r :=
        { sequence := sequence, resource := resource, quality :=
          intClamp (Max.max target level) minimum maximum }) hg hrecover, h]
    · -- the lowest written group is at the control's level, so the rollback is not above it
      have := hwrites g₁ hw₁
      rw [hg₁] at this
      omega
  · rintro ⟨heven, hkept, hqueued⟩
    refine AdaptiveResourceQualityState.ext_level fun g => ?_
    cases hg : resource.writes g with
    | true =>
      rw [AdaptiveResourceQualityState.level_apply_of_writes q hg, hexact, max_eq_right hqueued,
        heven g g₁ hg hw₁, hg₁]
    | false =>
      rw [AdaptiveResourceQualityState.level_apply_of_not_writes q hg hrecover, hkept g hg]

/-- **The rollback law.**  In every run, the rollback that a non-improving verdict queues gives
back the composition the reduction was applied to exactly when the reduction is `Restorable`. -/
theorem rollback_restores_iff (settings : QualitySettings) (enabled : Bool)
    (ops : List (SessionOp F)) (verdict : QualityResult) (resource : AdaptiveResourceControl)
    (quality : ℤ) (c : AdaptiveSession.ControlFrame F) (sequence : ℕ)
    (h : (run settings enabled ops).session.judged (.observe (some verdict)) =
      some (resource, quality)) :
    (∃ rollback, (((run settings enabled ops).session.step
        (.observe (some verdict))).selectionInput c).queuedRollback = some rollback ∧
      ((run settings enabled ops).session.step (.observe (some verdict))).quality.apply
        { sequence := sequence, resource := rollback.resource, quality := rollback.quality } =
        (run settings enabled ops).before) ↔
      (run settings enabled ops).Restorable resource := by
  have ht := run_sound (F := F) settings enabled ops
  generalize run settings enabled ops = t at h ht ⊢
  obtain ⟨hqueued, hkeep⟩ := queuedRollback_judged h c
  obtain ⟨r, hr, happlied, hlower, hknown, hres, hfrom⟩ :=
    AdaptiveSession.exists_of_judged h
  have hlevel : quality = t.before.controlQuality resource := by
    rw [← hfrom, ← hres]
    exact ht.window r hr happlied
  obtain ⟨hmax, hmin⟩ := ht.session.response r hr
  have hmin := hmin hlower
  rw [hfrom, hlevel] at hmax hmin
  rw [hkeep]
  simp only [hqueued, Option.some.injEq, exists_eq_left', hlevel]
  rw [apply_rollback_iff hknown t.session.settings.ten_le_minimum
    t.session.settings.maximum_le_hundred hmin hmax]
  constructor
  · rintro ⟨heven, hkept, hq⟩
    refine ⟨heven, hkept, fun target htarget => ?_⟩
    rw [htarget] at hq
    exact hq
  · rintro ⟨heven, hkept, hq⟩
    refine ⟨heven, hkept, ?_⟩
    cases htarget : t.session.rollbackTarget with
    | some target => exact hq target htarget
    | none =>
      rw [Option.getD_none, intClamp_of_mem le_rfl t.session.settings.minimum_le_maximum]
      exact hmin

/-! ## 5. A reduction of one control, and one of four -/

/-- The default bounds. -/
def defaultSettings : QualitySettings := .upTo 100 (by decide) (by decide)

/-- A frame of intervention in an offline match, `seconds` in. -/
def pressedFrame (resource : ResourceKind) (confidence : ℚ) (seconds : ℕ) :
    AdaptiveSession.ControlFrame ℚ where
  state := .intervention
  dataQuality := .valid
  primaryResource := resource
  primaryConfidence := confidence
  qualityChangeBudget := 2
  currentFramePressure := true
  currentResourcePressure := false
  recoveryEligible := false
  activeGameplay := true
  sessionClass := .verifiedOffline
  zedTimeActive := false
  shadowMode := false
  port := true
  nowNs := seconds * 1000000000
  sampleTimestampNs := seconds * 1000000000
  started := true

/-- A launch, its process, and KF2's confirmation of the enabled mode. -/
def opened : List (SessionOp ℚ) :=
  [.prepareLaunch, .bindProcess true,
    .reconcile { newProvider := true, port := true, nowNs := 1000000000, started := true },
    .pollMode (some .applied), .mapReady 1000000000]

/-- The GPU control goes from 100 to 90 and is applied. -/
def gpuReduced : List (SessionOp ℚ) :=
  opened ++ [.control (pressedFrame .gpu (3 / 4) 60), .pollQuality (some .applied) 60500000000]

theorem rollback_restores_iff_gpuReduced :
    (run defaultSettings true gpuReduced).session.judged (.observe (some .noClearChange)) =
      some (.gpu, 100) ∧
    ∃ rollback, (((run defaultSettings true gpuReduced).session.step
        (.observe (some .noClearChange))).selectionInput
          (pressedFrame .gpu (3 / 4) 70)).queuedRollback = some rollback ∧
      ((run defaultSettings true gpuReduced).session.step
        (.observe (some .noClearChange))).quality.apply
          { sequence := 3, resource := rollback.resource, quality := rollback.quality } =
        (run defaultSettings true gpuReduced).before := by
  have hjudged : (run defaultSettings true gpuReduced).session.judged
      (.observe (some .noClearChange)) = some (.gpu, 100) := by decide +kernel
  have hbefore : (run defaultSettings true gpuReduced).before = .reset 100 := by decide +kernel
  have hquality : (run defaultSettings true gpuReduced).session.quality =
      ⟨100, 90, 100, 100, 100, 100⟩ := by decide +kernel
  have hnone : (run defaultSettings true gpuReduced).session.rollbackTarget = none := by
    decide +kernel
  refine ⟨hjudged, (rollback_restores_iff defaultSettings true gpuReduced .noClearChange .gpu 100
    (pressedFrame .gpu (3 / 4) 70) 3 hjudged).mpr ⟨?_, ?_, ?_⟩⟩
  · intro g g' _ _
    rw [hbefore, AdaptiveResourceQualityState.level_reset,
      AdaptiveResourceQualityState.level_reset]
  · intro g hg
    rw [hbefore, hquality]
    cases g <;> first | rfl | cases hg
  · rw [hnone]
    rintro target ⟨⟩

/-- After the GPU control has been lowered with success, the mixed control is. -/
def mixedReduced : List (SessionOp ℚ) :=
  gpuReduced ++ [.observe (some .improved), .control (pressedFrame .unknown 0 70),
    .pollQuality (some .applied) 70500000000]

/-- The mixed reduction is judged non-improving, and its rollback is sent and applied. -/
def mixedRolledBack : List (SessionOp ℚ) :=
  mixedReduced ++ [.observe (some .noClearChange), .control (pressedFrame .unknown 0 80),
    .pollQuality (some .applied) 80500000000]

/-- **One number does not hold four levels.**  The mixed reduction finds the GPU group at 90 and
the others at 100; its rollback leaves the CPU, VRAM and RAM groups at 90. -/
theorem mixed_rollback_unequal :
    (run defaultSettings true mixedReduced).session.judged (.observe (some .noClearChange)) =
      some (.mixed, 90) ∧
    (run defaultSettings true mixedReduced).before = ⟨100, 90, 100, 100, 100, 100⟩ ∧
    (run defaultSettings true mixedReduced).session.quality = ⟨80, 80, 80, 80, 100, 100⟩ ∧
    (((run defaultSettings true mixedReduced).session.step
        (.observe (some .noClearChange))).selectionInput
          (pressedFrame .unknown 0 80)).queuedRollback = some ⟨.mixed, 90⟩ ∧
    (run defaultSettings true mixedRolledBack).session.quality = ⟨90, 90, 90, 90, 100, 100⟩ ∧
    (run defaultSettings true mixedRolledBack).session.rollbackTarget = none := by
  decide +kernel

end Recorded

end Kf2Optimizer.Optimizer
