/-
# The range of the composition

`select_adaptive_runtime_control` refuses to act while the level it would change is outside the
configured range.  Commands stay within it (`select_safe`), so what matters is where the whole
composition is reset to.  There are two answers in the source: a launch, a detach or a new process
resets it to the configured MAXIMUM, a confirmed disable to the original graphics, 100.

`Traced` runs the session beside a record of which of the two came last.  `controllable_iff` says
that the levels are in range exactly when the maximum is 100 or the last reset was not to 100, and
that a composition out of range is refused whatever a frame brings.
-/
import Kf2Optimizer.Optimizer.SessionSound

set_option linter.unusedSectionVars false

namespace Kf2Optimizer.Optimizer

open DoubleOps

variable {F : Type} [DoubleOps F]

theorem AdaptiveResourceQualityState.le_level_apply {q : AdaptiveResourceQualityState} {m : ℤ}
    (hm : m ≤ 100) (h : ∀ g, m ≤ q.level g) {r : AdaptiveControlReceipt} (hr : m ≤ r.quality)
    (g : QualityGroup) : m ≤ (q.apply r).level g := by
  rw [level_apply]
  split
  · exact le_intClamp_of_le hm hr
  · split
    · exact le_max_of_le_left (h g)
    · exact h g

namespace AdaptiveSession

variable {s : AdaptiveSession F}

/-! ## 1. The two resets -/

/-- The call takes the composition back to the original graphics. -/
def restores (s : AdaptiveSession F) : SessionOp F → Bool
  | .pollMode outcome =>
    match s.modeInFlight, s.modePending with
    | some asked, some expected => s.debt && !expected && modeReadback expected asked outcome
    | _, _ => false
  | .toggle live _ =>
    s.enabled && match live with
      | .confirmed => true
      -- the toggle of an unreadable process fails before it reserves a debt
      | .unreadable => !s.debt
      | _ => false
  | _ => false

/-- A debt is owed after the detach. -/
def owesAfter (s : AdaptiveSession F) (d : Detach) : Bool :=
  (s.debt || d.restore == some .owed || d.restore == some .refused) && d.processCurrent

/-- The call starts over at the configured maximum. -/
def startsOver (s : AdaptiveSession F) : SessionOp F → Bool
  | .detach d => !s.owesAfter d
  | .bindProcess sameProcess => !s.gameProcess && (s.debt && !sameProcess)
  | .prepareLaunch => !s.token
  | _ => false

/-! ## 2. What a call leaves of the command and the queue -/

/-- Nothing is sent and nothing is queued: the pending command stays or is dropped, and so does
the queued rollback. -/
structure Keeps (s s' : AdaptiveSession F) : Prop where
  settings : s'.settings = s.settings
  pending : s'.pending = s.pending ∨ s'.pending = none
  rollback : (s'.rollbackTarget = s.rollbackTarget ∧ s'.rollbackResource = s.rollbackResource) ∨
    (s'.rollbackTarget = none ∧ s'.rollbackResource = none)

theorem Keeps.refl (s : AdaptiveSession F) : s.Keeps s := ⟨rfl, .inl rfl, .inl ⟨rfl, rfl⟩⟩

theorem Keeps.trans {s₁ s₂ s₃ : AdaptiveSession F} (h : s₁.Keeps s₂) (h' : s₂.Keeps s₃) :
    s₁.Keeps s₃ where
  settings := h'.settings.trans h.settings
  pending := by
    rcases h'.pending with hsame | hnone
    · rw [hsame]
      exact h.pending
    · exact .inr hnone
  rollback := by
    rcases h'.rollback with ⟨htarget, hresource⟩ | hnone
    · rw [htarget, hresource]
      exact h.rollback
    · exact .inr hnone

theorem keeps_pollMode (s : AdaptiveSession F) (outcome : Option AdaptiveControlReceiptStatus) :
    s.Keeps (s.pollAdaptiveRuntimeMode outcome) := by
  unfold pollAdaptiveRuntimeMode
  split
  · exact .refl s
  · exact ⟨rfl, .inl rfl, .inl ⟨rfl, rfl⟩⟩
  · simp only
    split
    · exact ⟨rfl, .inl rfl, .inr ⟨rfl, rfl⟩⟩
    · exact ⟨rfl, .inl rfl, .inl ⟨rfl, rfl⟩⟩

theorem keeps_leaveProvider (s : AdaptiveSession F) :
    s.Keeps s.leaveProvider ∧ s.leaveProvider.quality = s.quality := by
  unfold leaveProvider
  simp only
  split
  · exact ⟨⟨rfl, .inl rfl, .inl ⟨rfl, rfl⟩⟩, rfl⟩
  · split <;> exact ⟨⟨rfl, .inl rfl, .inl ⟨rfl, rfl⟩⟩, rfl⟩

theorem keeps_attemptMode (s : AdaptiveSession F) (c : ReconcileFrame) :
    s.Keeps (s.attemptMode c) ∧ (s.attemptMode c).quality = s.quality := by
  unfold attemptMode
  simp only
  split
  · exact ⟨⟨rfl, .inl rfl, .inl ⟨rfl, rfl⟩⟩, rfl⟩
  · split <;> exact ⟨⟨rfl, .inl rfl, .inl ⟨rfl, rfl⟩⟩, rfl⟩

theorem keeps_reconcile (s : AdaptiveSession F) (c : ReconcileFrame) :
    s.Keeps (s.reconcileAdaptiveRuntimeMode c) ∧
      (s.reconcileAdaptiveRuntimeMode c).quality = s.quality := by
  have hentered : s.Keeps (s.enterProvider c.newProvider) ∧
      (s.enterProvider c.newProvider).quality = s.quality := by
    unfold enterProvider
    split
    · exact s.keeps_leaveProvider
    · exact ⟨.refl s, rfl⟩
  unfold reconcileAdaptiveRuntimeMode
  split
  · exact ⟨.refl s, rfl⟩
  · simp only
    split
    · exact hentered
    · split
      · exact hentered
      · obtain ⟨hkeeps, hquality⟩ := (s.enterProvider c.newProvider).keeps_attemptMode c
        exact ⟨hentered.1.trans hkeeps, hquality.trans hentered.2⟩

theorem keeps_resetLocal (s : AdaptiveSession F) (enabled : Bool) (nowNs : ℕ) :
    s.Keeps (s.resetLocalAdaptiveControllerForMode enabled nowNs) ∧
      (s.resetLocalAdaptiveControllerForMode enabled nowNs).quality =
        if !enabled && !s.debt then .reset 100 else s.quality := by
  unfold resetLocalAdaptiveControllerForMode
  split <;> exact ⟨⟨rfl, .inr rfl, .inl ⟨rfl, rfl⟩⟩, rfl⟩

theorem keeps_setLive (s : AdaptiveSession F) (enabled : Bool) (live : LiveToggle) (nowNs : ℕ) :
    s.Keeps (s.setLiveAdaptiveEnabled enabled live nowNs).1 ∧
      (s.setLiveAdaptiveEnabled enabled live nowNs).1.quality =
        if !enabled && live == .confirmed then .reset 100 else s.quality := by
  have hreserve : s.Keeps (s.reserveDebt enabled) ∧ (s.reserveDebt enabled).quality = s.quality := by
    unfold reserveDebt
    split <;> exact ⟨⟨rfl, .inl rfl, .inl ⟨rfl, rfl⟩⟩, rfl⟩
  cases live with
  | notRunning => exact ⟨.refl s, by simp [setLiveAdaptiveEnabled]⟩
  | unreadable => exact ⟨.refl s, by simp [setLiveAdaptiveEnabled]⟩
  | unavailable => exact ⟨hreserve.1, by simpa [setLiveAdaptiveEnabled] using hreserve.2⟩
  | refused =>
    refine ⟨hreserve.1.trans ⟨rfl, .inl rfl, .inl ⟨rfl, rfl⟩⟩, ?_⟩
    simpa [setLiveAdaptiveEnabled] using hreserve.2
  | confirmed =>
    have hconfirm : s.Keeps ((s.reserveDebt enabled).confirmMode enabled nowNs) :=
      hreserve.1.trans ⟨rfl, .inl rfl, .inl ⟨rfl, rfl⟩⟩
    obtain ⟨hkeeps, hquality⟩ :=
      ((s.reserveDebt enabled).confirmMode enabled nowNs).keeps_resetLocal enabled nowNs
    refine ⟨hconfirm.trans hkeeps, hquality.trans ?_⟩
    cases enabled <;> rfl

theorem keeps_toggle (s : AdaptiveSession F) (live : LiveToggle) (nowNs : ℕ) :
    s.Keeps (s.toggleAdaptiveOptimization live nowNs) ∧
      (s.toggleAdaptiveOptimization live nowNs).quality =
        if s.restores (.toggle live nowNs) then .reset 100 else s.quality := by
  have hasked : s.Keeps { s with enabled := !s.enabled } := ⟨rfl, .inl rfl, .inl ⟨rfl, rfl⟩⟩
  obtain ⟨hlive, hquality⟩ :=
    ({ s with enabled := !s.enabled } : AdaptiveSession F).keeps_setLive (!s.enabled) live nowNs
  unfold toggleAdaptiveOptimization
  simp only
  split
  · rename_i hdone
    refine ⟨hasked.trans hlive, hquality.trans ?_⟩
    cases live <;> simp [setLiveAdaptiveEnabled] at hdone <;> simp [restores]
  · rename_i hfailed
    obtain ⟨hreset, hlevels⟩ := (({ s with enabled := !s.enabled } :
      AdaptiveSession F).setLiveAdaptiveEnabled (!s.enabled) live nowNs).1.keeps_resetLocal
        (!s.enabled) nowNs
    refine ⟨(hasked.trans (hlive.trans hreset)).trans ⟨rfl, .inl rfl, .inl ⟨rfl, rfl⟩⟩,
      hlevels.trans ?_⟩
    rw [hquality]
    cases live <;> cases henabled : s.enabled <;>
      simp [setLiveAdaptiveEnabled, reserveDebt, restores, henabled] at hfailed ⊢

theorem keeps_restoreLive (s : AdaptiveSession F) (r : LiveRestore) :
    s.Keeps (s.restoreLiveAdaptiveQuality r) := by
  cases r with
  | gone => exact ⟨rfl, .inl rfl, .inl ⟨rfl, rfl⟩⟩
  | owed => exact ⟨rfl, .inl rfl, .inl ⟨rfl, rfl⟩⟩
  | refused => exact ⟨rfl, .inl rfl, .inl ⟨rfl, rfl⟩⟩
  | confirmed => exact ⟨rfl, .inr rfl, .inl ⟨rfl, rfl⟩⟩

theorem keeps_voidDebt (s : AdaptiveSession F) (processCurrent : Bool) :
    s.Keeps (s.voidDebt processCurrent) ∧ (s.voidDebt processCurrent).quality = s.quality ∧
      (s.voidDebt processCurrent).debt = (s.debt && processCurrent) := by
  unfold voidDebt
  cases hdebt : s.debt <;> cases processCurrent <;>
    exact ⟨⟨rfl, .inl rfl, .inl ⟨rfl, rfl⟩⟩, rfl, by simp [hdebt]⟩

/-- What a detach finds when it has restored what it can: the composition is left alone as long as
a debt is owed for it. -/
theorem keeps_detachRestore (s : AdaptiveSession F) (d : Detach) :
    s.Keeps (s.detachRestore d) ∧
      (s.detachRestore d).debt =
        (s.debt || d.restore == some .owed || d.restore == some .refused) ∧
      ((s.detachRestore d).debt = true → (s.detachRestore d).quality = s.quality) := by
  unfold detachRestore
  cases hrestore : d.restore with
  | none => exact ⟨.refl s, by simp, fun _ => rfl⟩
  | some r =>
    simp only
    by_cases howed : s.debt
    · rw [if_pos howed]
      exact ⟨.refl s, by simp [howed], fun _ => rfl⟩
    · rw [if_neg howed]
      refine ⟨s.keeps_restoreLive r, ?_⟩
      cases r with
      | gone => exact ⟨by simp [restoreLiveAdaptiveQuality, howed], fun _ => rfl⟩
      | owed => exact ⟨by simp [restoreLiveAdaptiveQuality], fun _ => rfl⟩
      | refused => exact ⟨by simp [restoreLiveAdaptiveQuality], fun _ => rfl⟩
      | confirmed =>
        exact ⟨by simp [restoreLiveAdaptiveQuality, howed], by simp [restoreLiveAdaptiveQuality]⟩

theorem keeps_detach (s : AdaptiveSession F) (d : Detach) :
    s.Keeps (s.detachTelemetry d) ∧
      (s.detachTelemetry d).quality =
        if s.owesAfter d then s.quality else .reset s.settings.maximum := by
  obtain ⟨hrestore, howed, hlevels⟩ := s.keeps_detachRestore d
  obtain ⟨hvoid, hquality, hdebt⟩ := (s.detachRestore d).keeps_voidDebt d.processCurrent
  have hkeeps := hrestore.trans hvoid
  have howes : ((s.detachRestore d).voidDebt d.processCurrent).debt = s.owesAfter d := by
    rw [hdebt, howed]
    rfl
  unfold detachTelemetry
  simp only [howes]
  split
  · rename_i h
    refine ⟨hkeeps.trans ⟨rfl, .inr rfl, .inl ⟨rfl, rfl⟩⟩, hquality.trans (hlevels ?_)⟩
    rw [← howes, hdebt, Bool.and_eq_true] at h
    exact h.1
  · refine ⟨hkeeps.trans ⟨rfl, .inr rfl, .inr ⟨rfl, rfl⟩⟩, ?_⟩
    simp only [hkeeps.settings]

theorem keeps_bindProcess (s : AdaptiveSession F) (sameProcess : Bool) :
    s.Keeps (s.bindProcess sameProcess) ∧
      (s.bindProcess sameProcess).quality =
        if s.startsOver (.bindProcess sameProcess) then .reset s.settings.maximum
        else s.quality := by
  unfold bindProcess startsOver
  cases s.gameProcess
  · by_cases hvoid : s.debt && !sameProcess
    · simp only [hvoid]
      exact ⟨⟨rfl, .inl rfl, .inr ⟨rfl, rfl⟩⟩, rfl⟩
    · simp only [hvoid]
      exact ⟨⟨rfl, .inl rfl, .inl ⟨rfl, rfl⟩⟩, rfl⟩
  · exact ⟨.refl s, rfl⟩

theorem keeps_prepareLaunch (s : AdaptiveSession F) :
    s.Keeps s.prepareLaunch ∧
      s.prepareLaunch.quality =
        if s.startsOver .prepareLaunch then .reset s.settings.maximum else s.quality := by
  unfold prepareLaunch startsOver
  cases s.token
  · exact ⟨⟨rfl, .inl rfl, .inr ⟨rfl, rfl⟩⟩, rfl⟩
  · exact ⟨.refl s, rfl⟩

theorem pollMode_quality (s : AdaptiveSession F) (outcome : Option AdaptiveControlReceiptStatus) :
    (s.pollAdaptiveRuntimeMode outcome).quality =
      if s.restores (.pollMode outcome) then .reset 100 else s.quality := by
  unfold pollAdaptiveRuntimeMode restores
  cases hflight : s.modeInFlight with
  | none => rfl
  | some asked =>
    cases hmode : s.modePending with
    | none => rfl
    | some expected =>
      simp only
      split <;> rfl

/-! ## 3. One call -/

/-- The call has nothing to do with a command. -/
def quiet : SessionOp F → Bool
  | .control _ | .pollQuality _ _ | .observe _ => false
  | _ => true

theorem keeps_step {op : SessionOp F} (h : quiet op = true) : s.Keeps (s.step op) := by
  cases op with
  | control c => cases h
  | pollQuality outcome completedNs => cases h
  | observe result => cases h
  | pollMode outcome => exact s.keeps_pollMode outcome
  | reconcile c => exact (s.keeps_reconcile c).1
  | toggle live nowNs => exact (s.keeps_toggle live nowNs).1
  | detach d => exact (s.keeps_detach d).1
  | bindProcess sameProcess => exact (s.keeps_bindProcess sameProcess).1
  | prepareLaunch => exact s.keeps_prepareLaunch.1
  | restoreProtectedSession => exact ⟨rfl, .inr rfl, .inl ⟨rfl, rfl⟩⟩
  | mapReady nowNs => exact ⟨rfl, .inl rfl, .inl ⟨rfl, rfl⟩⟩
  | frameRateModeChanged => exact ⟨rfl, .inl rfl, .inl ⟨rfl, rfl⟩⟩
  | actuate op => exact ⟨rfl, .inl rfl, .inl ⟨rfl, rfl⟩⟩

/-- The receipt of a pending command. -/
def receiptOf (p : AdaptiveRuntimePendingRequest) : AdaptiveControlReceipt where
  sequence := p.sequence
  resource := p.resource
  quality := p.requestedQuality

/-- **The outcome of a command** changes the composition by its receipt or not at all. -/
theorem pollQuality_quality (hs : s.Sound) (outcome : Option AdaptiveControlReceiptStatus)
    (completedNs : ℕ) :
    (s.pollAdaptiveQualityDispatcher outcome completedNs).settings = s.settings ∧
      (s.inFlight ≠ none → (s.pollAdaptiveQualityDispatcher outcome completedNs).pending = none) ∧
      ((s.pollAdaptiveQualityDispatcher outcome completedNs).quality = s.quality ∨
        ∃ p, s.pending = some p ∧
          (s.pollAdaptiveQualityDispatcher outcome completedNs).quality =
            s.quality.apply (receiptOf p)) := by
  unfold pollAdaptiveQualityDispatcher
  cases hflight : s.inFlight with
  | none => exact ⟨rfl, fun h => absurd rfl h, .inl rfl⟩
  | some request =>
    cases hpending : s.pending with
    | none => exact ⟨rfl, fun _ => rfl, .inl rfl⟩
    | some p =>
      have hrequest : request = ⟨p.sequence, p.resource, p.requestedQuality⟩ := by
        have hsent := (hs.awaiting p hpending).request
        rw [hflight] at hsent
        exact Option.some.inj hsent
      subst hrequest
      refine ⟨?_, fun _ => rfl, ?_⟩
      · cases outcome with
        | none => rfl
        | some status =>
          cases status with
          | applied =>
            simp only [settle]
            split <;> rfl
          | _ => rfl
      · cases outcome with
        | none => exact .inl rfl
        | some status =>
          cases status with
          | applied =>
            simp only [settle]
            split
            · exact .inr ⟨p, rfl, rfl⟩
            · exact .inl rfl
          | _ => exact .inl rfl

theorem observe_kept (s : AdaptiveSession F) (result : Option QualityResult) :
    (s.step (.observe result)).settings = s.settings ∧
      (s.step (.observe result)).pending = s.pending ∧
      (s.step (.observe result)).quality = s.quality := by
  simp only [step]
  split
  · exact ⟨rfl, rfl, rfl⟩
  · unfold observeAdaptiveQualityResponse
    split
    · split
      · exact ⟨rfl, rfl, rfl⟩
      · split <;> exact ⟨rfl, rfl, rfl⟩
    · exact ⟨rfl, rfl, rfl⟩

theorem step_settings (hs : s.Sound) (op : SessionOp F) : (s.step op).settings = s.settings := by
  cases hquiet : quiet op with
  | true => exact (keeps_step hquiet).settings
  | false =>
    cases op with
    | control c =>
      rcases s.updateAdaptiveController_cases c with ⟨t, ht⟩ | ⟨selected, n, t, a, -, -, ht⟩
      · simp only [step, ht]
      · simp only [step, ht]
        rfl
    | pollQuality outcome completedNs => exact (pollQuality_quality hs outcome completedNs).1
    | observe result => exact (s.observe_kept result).1
    | _ => cases hquiet

/-- **A command that was not pending before** is the selection of the frame. -/
theorem step_pending (hs : s.Sound) {op : SessionOp F} {p : AdaptiveRuntimePendingRequest}
    (h : (s.step op).pending = some p) :
    s.pending = some p ∨
      ∃ c selected, op = .control c ∧ s.selection c = some selected ∧
        p.resource = selected.resource ∧ p.requestedQuality = selected.quality := by
  cases hquiet : quiet op with
  | true =>
    rcases (keeps_step hquiet).pending with hsame | hnone
    · exact .inl (hsame ▸ h)
    · rw [hnone] at h
      cases h
  | false =>
    cases op with
    | control c =>
      rcases s.updateAdaptiveController_cases c with ⟨t, ht⟩ | ⟨selected, n, t, a, hsel, -, ht⟩
      · simp only [step, ht] at h
        exact .inl h
      · simp only [step, ht, send] at h
        cases h
        exact .inr ⟨c, selected, rfl, hsel, rfl, rfl⟩
    | pollQuality outcome completedNs =>
      by_cases hflight : s.inFlight = none
      · simp only [step, pollAdaptiveQualityDispatcher, hflight] at h
        exact .inl h
      · have hnone := (pollQuality_quality hs outcome completedNs).2.1 hflight
        simp only [step, hnone] at h
        cases h
    | observe result =>
      rw [(s.observe_kept result).2.1] at h
      exact .inl h
    | _ => cases hquiet

/-- **What a call does to the composition**: one of the two resets, the receipt of the pending
command, or nothing. -/
theorem step_quality (hs : s.Sound) (op : SessionOp F) :
    (s.restores op = true ∧ (s.step op).quality = .reset 100) ∨
      (s.restores op = false ∧ s.startsOver op = true ∧
        (s.step op).quality = .reset s.settings.maximum) ∨
      (s.restores op = false ∧ s.startsOver op = false ∧
        ((s.step op).quality = s.quality ∨
          ∃ p, s.pending = some p ∧ (s.step op).quality = s.quality.apply (receiptOf p))) := by
  cases op with
  | control c =>
    refine .inr (.inr ⟨rfl, rfl, .inl ?_⟩)
    rcases s.updateAdaptiveController_cases c with ⟨t, ht⟩ | ⟨selected, n, t, a, -, -, ht⟩
    · simp only [step, ht]
    · simp only [step, ht]
      rfl
  | pollQuality outcome completedNs =>
    exact .inr (.inr ⟨rfl, rfl, (pollQuality_quality hs outcome completedNs).2.2⟩)
  | observe result => exact .inr (.inr ⟨rfl, rfl, .inl (s.observe_kept result).2.2⟩)
  | pollMode outcome =>
    have hquality := s.pollMode_quality outcome
    by_cases h : s.restores (.pollMode outcome)
    · rw [if_pos h] at hquality
      exact .inl ⟨h, hquality⟩
    · rw [if_neg h] at hquality
      exact .inr (.inr ⟨Bool.eq_false_iff.mpr h, rfl, .inl hquality⟩)
  | reconcile c => exact .inr (.inr ⟨rfl, rfl, .inl (s.keeps_reconcile c).2⟩)
  | toggle live nowNs =>
    have hquality := (s.keeps_toggle live nowNs).2
    by_cases h : s.restores (.toggle live nowNs)
    · rw [if_pos h] at hquality
      exact .inl ⟨h, hquality⟩
    · rw [if_neg h] at hquality
      exact .inr (.inr ⟨Bool.eq_false_iff.mpr h, rfl, .inl hquality⟩)
  | detach d =>
    have hquality := (s.keeps_detach d).2
    by_cases h : s.owesAfter d
    · rw [if_pos h] at hquality
      exact .inr (.inr ⟨rfl, by simp [startsOver, h], .inl hquality⟩)
    · rw [if_neg h] at hquality
      exact .inr (.inl ⟨rfl, by simp [startsOver, h], hquality⟩)
  | bindProcess sameProcess =>
    have hquality := (s.keeps_bindProcess sameProcess).2
    by_cases h : s.startsOver (.bindProcess sameProcess)
    · rw [if_pos h] at hquality
      exact .inr (.inl ⟨rfl, h, hquality⟩)
    · rw [if_neg h] at hquality
      exact .inr (.inr ⟨rfl, Bool.eq_false_iff.mpr h, .inl hquality⟩)
  | prepareLaunch =>
    have hquality := s.keeps_prepareLaunch.2
    by_cases h : s.startsOver .prepareLaunch
    · rw [if_pos h] at hquality
      exact .inr (.inl ⟨rfl, h, hquality⟩)
    · rw [if_neg h] at hquality
      exact .inr (.inr ⟨rfl, Bool.eq_false_iff.mpr h, .inl hquality⟩)
  | restoreProtectedSession => exact .inr (.inr ⟨rfl, rfl, .inl rfl⟩)
  | mapReady nowNs => exact .inr (.inr ⟨rfl, rfl, .inl rfl⟩)
  | frameRateModeChanged => exact .inr (.inr ⟨rfl, rfl, .inl rfl⟩)
  | actuate op => exact .inr (.inr ⟨rfl, rfl, .inl rfl⟩)

/-! ## 4. Refusals -/

/-- The level a selection starts from is that of some group. -/
theorem exists_currentQuality_eq (s : AdaptiveSession F) (c : ControlFrame F) :
    ∃ g, s.quality.level g = (s.selectionInput c).currentQuality := by
  by_cases hstable : c.state = .stable
  · obtain ⟨g, hg⟩ := s.quality.exists_level_eq .recover
    exact ⟨g, by simpa [selectionInput, hstable, AdaptiveResourceQualityState.controlQuality]
      using hg⟩
  · obtain ⟨g, hg⟩ := s.quality.exists_level_eq
      (adaptiveRuntimeResource c.primaryResource c.primaryConfidence)
    exact ⟨g, by simpa [selectionInput, hstable] using hg⟩

/-- **A composition above the range** is refused, whatever the frame brings. -/
theorem selection_eq_none_of_above (h : ∀ g, s.settings.maximum < s.quality.level g)
    (c : ControlFrame F) : s.selection c = none := by
  obtain ⟨g, hg⟩ := s.exists_currentQuality_eq c
  cases hsel : s.selection c with
  | none => rfl
  | some selected =>
    have hle := (select_safe _ _ (selection_eq_some hsel).2.2).1.current.2
    rw [← hg] at hle
    exact absurd (h g) (not_lt.mpr hle)

end AdaptiveSession

/-! ## 5. The session beside its last reset -/

/-- A session, and whether its composition was last reset to the original graphics. -/
structure Traced (F : Type) where
  session : AdaptiveSession F
  original : Bool

namespace Traced

/-- The record never influences the session. -/
def step (t : Traced F) (op : SessionOp F) : Traced F where
  session := t.session.step op
  original :=
    if t.session.restores op then true
    else if t.session.startsOver op then false
    else t.original

/-- The session after a list of calls on a new one, which begins with the original graphics. -/
def run (settings : QualitySettings) (enabled : Bool) (ops : List (SessionOp F)) : Traced F :=
  StepMachine.exec step ⟨AdaptiveSession.init settings enabled, true⟩ ops

theorem session_run (settings : QualitySettings) (enabled : Bool) (ops : List (SessionOp F)) :
    (run settings enabled ops).session = AdaptiveSession.run settings enabled ops := by
  induction ops using List.reverseRecOn with
  | nil => rfl
  | append_singleton ops op ih =>
    unfold run AdaptiveSession.run at ih ⊢
    rw [StepMachine.exec_snoc, StepMachine.exec_snoc, ← ih]
    rfl

/-- The invariant: nothing is below the range, and above it only the original graphics are. -/
structure Sound (t : Traced F) : Prop where
  session : t.session.Sound
  lower : ∀ g, t.session.settings.minimum ≤ t.session.quality.level g
  requested : ∀ p, t.session.pending = some p →
    t.session.settings.minimum ≤ p.requestedQuality
  reduced : t.original = false → ∀ g, t.session.quality.level g ≤ t.session.settings.maximum
  whole : t.original = true → t.session.settings.maximum = 100 ∨
    ∀ g, t.session.quality.level g = 100

theorem sound_init (settings : QualitySettings) (enabled : Bool) :
    (⟨AdaptiveSession.init settings enabled, true⟩ : Traced F).Sound where
  session := AdaptiveSession.sound_init settings enabled
  lower := by
    intro g
    have hlevel : (AdaptiveResourceQualityState.reset 100).level g = 100 := level_reset_hundred g
    exact (settings.minimum_le_maximum.trans settings.maximum_le_hundred).trans hlevel.ge
  requested := by rintro p ⟨⟩
  reduced := by rintro ⟨⟩
  whole := fun _ => .inr level_reset_hundred

theorem Sound.requested_step {t : Traced F} (ht : t.Sound) {op : SessionOp F}
    {p : AdaptiveRuntimePendingRequest} (h : (t.session.step op).pending = some p) :
    t.session.settings.minimum ≤ p.requestedQuality := by
  rcases AdaptiveSession.step_pending ht.session h with hold | ⟨c, selected, -, hsel, -, hq⟩
  · exact ht.requested p hold
  · rw [hq]
    exact (select_safe _ _ (AdaptiveSession.selection_eq_some hsel).2.2).2.1.1

/-- **One call keeps the invariant.** -/
theorem Sound.step {t : Traced F} (ht : t.Sound) (op : SessionOp F) : (t.step op).Sound := by
  have hsettings := AdaptiveSession.step_settings ht.session op
  have hmin : t.session.settings.minimum ≤ 100 :=
    t.session.settings.minimum_le_maximum.trans t.session.settings.maximum_le_hundred
  have hrequested : ∀ p, (t.session.step op).pending = some p →
      (t.session.step op).settings.minimum ≤ p.requestedQuality := by
    intro p hp
    rw [hsettings]
    exact ht.requested_step hp
  have hbuild : ∀ original,
      (∀ g, t.session.settings.minimum ≤ (t.session.step op).quality.level g) →
      (original = false → ∀ g,
        (t.session.step op).quality.level g ≤ t.session.settings.maximum) →
      (original = true → t.session.settings.maximum = 100 ∨
        ∀ g, (t.session.step op).quality.level g = 100) →
      (⟨t.session.step op, original⟩ : Traced F).Sound := by
    intro original hlower hreduced hwhole
    refine ⟨ht.session.step op, ?_, hrequested, ?_, ?_⟩ <;> rw [hsettings]
    exacts [hlower, hreduced, hwhole]
  unfold Traced.step
  rcases AdaptiveSession.step_quality ht.session op with
    ⟨hrestores, hq⟩ | ⟨hrestores, hover, hq⟩ | ⟨hrestores, hover, hq⟩
  · rw [if_pos hrestores]
    refine hbuild true ?_ (by rintro ⟨⟩) (fun _ => .inr ?_)
    · intro g
      rw [hq, level_reset_hundred]
      exact hmin
    · intro g
      rw [hq, level_reset_hundred]
  · rw [if_neg (by simp [hrestores]), if_pos hover]
    refine hbuild false ?_ (fun _ g => ?_) (by rintro ⟨⟩)
    · intro g
      rw [hq, t.session.settings.level_reset_maximum]
      exact t.session.settings.minimum_le_maximum
    · rw [hq, t.session.settings.level_reset_maximum]
  · rw [if_neg (by simp [hrestores]), if_neg (by simp [hover])]
    refine hbuild t.original ?_ ?_ ?_
    all_goals rcases hq with hsame | ⟨p, hp, happly⟩
    · rw [hsame]
      exact ht.lower
    · rw [happly]
      exact AdaptiveResourceQualityState.le_level_apply hmin ht.lower (ht.requested p hp)
    · rw [hsame]
      exact ht.reduced
    · intro _ g
      have hawait := ht.session.awaiting p hp
      rw [happly]
      exact AdaptiveResourceQualityState.level_apply_le
        (t.session.settings.ten_le_minimum.trans t.session.settings.minimum_le_maximum)
        hawait.level_le hawait.requested_le g
    · rw [hsame]
      exact ht.whole
    · -- a command is only ever pending over a composition within the maximum
      intro horiginal
      refine .inl ((ht.whole horiginal).elim id fun hall => ?_)
      have hle := (ht.session.awaiting p hp).level_le .cpu
      rw [hall .cpu] at hle
      exact le_antisymm t.session.settings.maximum_le_hundred hle

theorem run_sound (settings : QualitySettings) (enabled : Bool) (ops : List (SessionOp F)) :
    (run settings enabled ops).Sound ∧
      (run settings enabled ops).session.settings = settings := by
  refine StepMachine.exec_invariant (I := fun t : Traced F => t.Sound ∧ t.session.settings = settings)
    (fun t op ht => ?_) ops _ ⟨sound_init settings enabled, rfl⟩
  exact ⟨ht.1.step op, (AdaptiveSession.step_settings ht.1.session op).trans ht.2⟩

end Traced

/-- **Reachable quality and the configured range.**  In every run, every level is in the
configured range exactly when the maximum is 100 or the composition was last reset to the maximum.
Then no frame is refused for its level; otherwise every frame is. -/
theorem controllable_iff (settings : QualitySettings) (enabled : Bool) (ops : List (SessionOp F)) :
    ((∀ g, settings.minimum ≤ (AdaptiveSession.run settings enabled ops).quality.level g ∧
        (AdaptiveSession.run settings enabled ops).quality.level g ≤ settings.maximum) ↔
      (settings.maximum = 100 ∨ (Traced.run settings enabled ops).original = false)) ∧
    (settings.maximum = 100 ∨ (Traced.run settings enabled ops).original = false →
      ∀ c, settings.minimum ≤
          ((AdaptiveSession.run settings enabled ops).selectionInput c).currentQuality ∧
        ((AdaptiveSession.run settings enabled ops).selectionInput c).currentQuality ≤
          settings.maximum) ∧
    (¬ (settings.maximum = 100 ∨ (Traced.run settings enabled ops).original = false) →
      ∀ c, (AdaptiveSession.run settings enabled ops).selection c = none) := by
  obtain ⟨hsound, hsettings⟩ := Traced.run_sound settings enabled ops
  rw [← Traced.session_run]
  generalize Traced.run settings enabled ops = t at hsound hsettings ⊢
  subst hsettings
  have hrange : t.session.settings.maximum = 100 ∨ t.original = false →
      ∀ g, t.session.quality.level g ≤ t.session.settings.maximum := by
    rintro (hmax | hreset) g
    · rcases hsound.session.levels with hle | hall
      · exact hle g
      · rw [hall g, hmax]
    · exact hsound.reduced hreset g
  have habove : ¬ (t.session.settings.maximum = 100 ∨ t.original = false) →
      ∀ g, t.session.settings.maximum < t.session.quality.level g := by
    intro hnot g
    obtain ⟨hmax, hreset⟩ := not_or.mp hnot
    have hall := (hsound.whole (by simpa using hreset)).resolve_left hmax
    rw [hall g]
    exact lt_of_le_of_ne t.session.settings.maximum_le_hundred hmax
  refine ⟨⟨fun h => ?_, fun h g => ⟨hsound.lower g, hrange h g⟩⟩, ?_, ?_⟩
  · by_contra hnot
    exact absurd (h .cpu).2 (not_le.mpr (habove hnot .cpu))
  · intro h c
    obtain ⟨g, hg⟩ := t.session.exists_currentQuality_eq c
    rw [← hg]
    exact ⟨hsound.lower g, hrange h g⟩
  · exact fun hnot => AdaptiveSession.selection_eq_none_of_above (habove hnot)

/-- A launch and its process; KF2 confirms the mode, the user's disable and the enable. -/
def disabledAndEnabled : List (SessionOp ℚ) :=
  [.prepareLaunch, .bindProcess true,
    .reconcile { newProvider := true, port := true, nowNs := 1000000000, started := true },
    .pollMode (some .applied), .mapReady 1000000000, .toggle .confirmed 2000000000,
    .toggle .confirmed 3000000000]

/-- Bounds with a lower maximum. -/
def ceilingSettings : QualitySettings := .upTo 90 (by decide) (by decide)

/-- **A confirmed disable under a lower maximum.**  The composition is known and nothing is owed,
but it is at 100 with a maximum of 90, and no frame is acted on any more. -/
theorem refused_after_disable :
    (AdaptiveSession.run ceilingSettings true disabledAndEnabled).enabled = true ∧
      (AdaptiveSession.run ceilingSettings true disabledAndEnabled).modeConfirmed = true ∧
      (AdaptiveSession.run ceilingSettings true disabledAndEnabled).known = true ∧
      (AdaptiveSession.run ceilingSettings true disabledAndEnabled).debt = false ∧
      (∀ g, (AdaptiveSession.run ceilingSettings true disabledAndEnabled).quality.level g = 100) ∧
      ∀ c, (AdaptiveSession.run ceilingSettings true disabledAndEnabled).selection c = none := by
  have hquality : (AdaptiveSession.run ceilingSettings true disabledAndEnabled).quality =
      .reset 100 := by decide +kernel
  have hmax : (AdaptiveSession.run ceilingSettings true disabledAndEnabled).settings.maximum =
      90 := by decide +kernel
  refine ⟨by decide +kernel, by decide +kernel, by decide +kernel, by decide +kernel, ?_, ?_⟩
  · intro g
    rw [hquality]
    exact level_reset_hundred g
  · refine AdaptiveSession.selection_eq_none_of_above fun g => ?_
    rw [hquality, level_reset_hundred, hmax]
    decide

end Kf2Optimizer.Optimizer
