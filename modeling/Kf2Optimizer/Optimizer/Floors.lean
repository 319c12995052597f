/-
# The reduction floor

What the floors are for: once a reduction has been judged non-improving, the groups it lowered
are not to be reduced below the level they had before it.  `Ledger` runs the recorded session
beside that demand, one level for each group, and forgets it where the code resets the floors.

The code keeps one floor for each group too, but the mixed control reads the LOWEST of its four.
`reduction_floor_law` gives the condition on the mixed control under which the demand is met in
every run; `mixed_below_floor` is a run that breaks it.
-/
import Kf2Optimizer.Optimizer.Rollback

set_option linter.unusedSectionVars false

namespace Kf2Optimizer.Optimizer

open DoubleOps

variable {F : Type} [DoubleOps F]

namespace AdaptiveSession

variable {s : AdaptiveSession F}

/-! ## 1. What each call does to the floors -/

/-- KF2 confirms that it has restored the composition a debt was owed for. -/
def restoresDebt (s : AdaptiveSession F) (outcome : Option AdaptiveControlReceiptStatus) : Bool :=
  match s.modeInFlight, s.modePending with
  | some asked, some expected => s.debt && !expected && modeReadback expected asked outcome
  | _, _ => false

/-- The call resets the floors: a restored debt, a new provider that inherits none, a detached
process, a prepared launch. -/
def resetsFloor (s : AdaptiveSession F) : SessionOp F → Bool
  | .pollMode outcome => s.restoresDebt outcome
  | .reconcile c => s.gameProcess && c.newProvider && !s.leavesDebt && !s.debt
  | .detach _ => true
  | .prepareLaunch => !s.token
  | _ => false

theorem pollMode_floor {outcome : Option AdaptiveControlReceiptStatus}
    (h : s.restoresDebt outcome = false) :
    (s.pollAdaptiveRuntimeMode outcome).floor = s.floor := by
  unfold restoresDebt at h
  unfold pollAdaptiveRuntimeMode
  split
  · rfl
  · rfl
  · rename_i asked expected hflight hmode
    rw [hflight, hmode] at h
    simp only [h, Bool.false_eq_true, if_false]

theorem leaveProvider_floor (h : (!s.leavesDebt && !s.debt) = false) :
    s.leaveProvider.floor = s.floor := by
  unfold leaveProvider
  simp only
  split
  · rfl
  · rename_i hclean
    split
    · rfl
    · rename_i hdebt
      have hleaves : s.leavesDebt = false := Bool.eq_false_iff.mpr hclean
      have hfree : s.debt = false := Bool.eq_false_iff.mpr hdebt
      rw [hleaves, hfree] at h
      cases h

@[simp] theorem attemptMode_floor (c : ReconcileFrame) : (s.attemptMode c).floor = s.floor := by
  unfold attemptMode
  simp only
  split
  · rfl
  · split <;> rfl

theorem reconcile_floor {c : ReconcileFrame}
    (h : (s.gameProcess && c.newProvider && !s.leavesDebt && !s.debt) = false) :
    (s.reconcileAdaptiveRuntimeMode c).floor = s.floor := by
  unfold reconcileAdaptiveRuntimeMode
  split
  · rfl
  · rename_i hbound
    have hentered : (s.enterProvider c.newProvider).floor = s.floor := by
      unfold enterProvider
      split
      · rename_i hnew
        refine leaveProvider_floor ?_
        simp only [Bool.not_eq_true, Bool.not_eq_false'] at hbound
        rw [hbound, hnew] at h
        exact h
      · rfl
    simp only
    split
    · exact hentered
    · split
      · exact hentered
      · rw [attemptMode_floor]
        exact hentered

@[simp] theorem resetLocal_floor (enabled : Bool) (nowNs : ℕ) :
    (s.resetLocalAdaptiveControllerForMode enabled nowNs).floor = s.floor := by
  unfold resetLocalAdaptiveControllerForMode
  split <;> rfl

@[simp] theorem reserveDebt_floor (enabled : Bool) : (s.reserveDebt enabled).floor = s.floor := by
  unfold reserveDebt
  split <;> rfl

@[simp] theorem setLive_floor (enabled : Bool) (live : LiveToggle) (nowNs : ℕ) :
    (s.setLiveAdaptiveEnabled enabled live nowNs).1.floor = s.floor := by
  cases live <;> simp [setLiveAdaptiveEnabled, confirmMode]

theorem toggle_floor (live : LiveToggle) (nowNs : ℕ) :
    (s.toggleAdaptiveOptimization live nowNs).floor = s.floor := by
  unfold toggleAdaptiveOptimization
  simp only
  split <;> simp

theorem bindProcess_floor (sameProcess : Bool) : (s.bindProcess sameProcess).floor = s.floor := by
  unfold bindProcess
  split
  · rfl
  · split <;> rfl

theorem prepareLaunch_floor (h : (!s.token) = false) : s.prepareLaunch.floor = s.floor := by
  unfold prepareLaunch
  rw [if_pos (by simpa using h)]

theorem settle_floor (p : AdaptiveRuntimePendingRequest) (request : AdaptiveControlRequest)
    (outcome : Option AdaptiveControlReceiptStatus) (completedNs : ℕ) :
    (s.settle p request outcome completedNs).floor = s.floor := by
  unfold settle
  cases outcome with
  | none => rfl
  | some status =>
    cases status with
    | restored => rfl
    | stateUnknown => rfl
    | unsupported => rfl
    | applied =>
      simp only
      split <;> rfl

theorem pollQuality_floor (outcome : Option AdaptiveControlReceiptStatus) (completedNs : ℕ) :
    (s.pollAdaptiveQualityDispatcher outcome completedNs).floor = s.floor := by
  unfold pollAdaptiveQualityDispatcher
  split
  · rfl
  · split
    · rfl
    · exact settle_floor _ _ _ _

/-- A verdict that takes a reduction back closes the window and sets the floors of the groups
the reduction wrote. -/
theorem step_judged {op : SessionOp F} {resource : AdaptiveResourceControl} {quality : ℤ}
    (h : s.judged op = some (resource, quality)) :
    (s.step op).response = none ∧ (s.step op).floor =
      s.floor.apply { sequence := 0, resource := resource, quality := quality } := by
  cases op with
  | observe result =>
    cases result with
    | none => cases h
    | some verdict =>
      obtain ⟨hopen, hfeedback⟩ := judged_eq_some h
      obtain ⟨r, hr, happlied, -, -, -, -⟩ := feedback_eq_some hfeedback
      simp only [step, hopen, Bool.false_eq_true, if_false, observeAdaptiveQualityResponse, hr,
        if_neg happlied, hfeedback, and_self]
  | control => cases h
  | pollQuality => cases h
  | pollMode => cases h
  | reconcile => cases h
  | toggle => cases h
  | detach => cases h
  | bindProcess => cases h
  | prepareLaunch => cases h
  | restoreProtectedSession => cases h
  | mapReady => cases h
  | frameRateModeChanged => cases h
  | actuate => cases h

theorem observe_floor {result : Option QualityResult} (h : s.judged (.observe result) = none) :
    (s.step (.observe result)).floor = s.floor := by
  simp only [step]
  split
  · rfl
  · rename_i hopen
    unfold observeAdaptiveQualityResponse
    split
    · rename_i verdict r hresponse
      split
      · rfl
      · have hnone : s.feedback verdict = none := by
          simp only [judged, if_neg hopen] at h
          exact h
        rw [hnone]
    · rfl

/-- **Nothing else touches the floors.** -/
theorem step_floor {op : SessionOp F} (hreset : s.resetsFloor op = false)
    (hjudged : s.judged op = none) : (s.step op).floor = s.floor := by
  cases op with
  | control c =>
    rcases s.updateAdaptiveController_cases c with ⟨t, ht⟩ | ⟨sel, n, t, a, -, -, ht⟩
    · simp only [step, ht]
    · simp only [step, ht, send]
  | pollQuality outcome completedNs => exact pollQuality_floor outcome completedNs
  | pollMode outcome => exact pollMode_floor hreset
  | reconcile c => exact reconcile_floor hreset
  | observe result => exact observe_floor hjudged
  | toggle live nowNs => exact toggle_floor live nowNs
  | detach d => cases hreset
  | bindProcess sameProcess => exact bindProcess_floor sameProcess
  | prepareLaunch => exact prepareLaunch_floor hreset
  | restoreProtectedSession => rfl
  | mapReady nowNs => rfl
  | frameRateModeChanged => rfl
  | actuate op => rfl

/-- **The command of a window** was there before the call, or is the one the call sends. -/
theorem step_command {op : SessionOp F} {r : QualityResponsePending}
    (h : (s.step op).response = some r) :
    (∃ r₀, s.response = some r₀ ∧ r₀.resource = r.resource ∧ r₀.fromQuality = r.fromQuality ∧
        r₀.toQuality = r.toQuality) ∨
      ∃ c selected, op = .control c ∧ s.selection c = some selected ∧
        r.resource = selected.resource ∧ r.toQuality = selected.quality ∧
        r.fromQuality = s.quality.controlQuality selected.resource := by
  cases op with
  | control c =>
    rcases s.updateAdaptiveController_cases c with ⟨t, ht⟩ | ⟨selected, n, t, a, hsel, -, ht⟩
    · simp only [step, ht] at h
      exact .inl ⟨r, h, rfl, rfl, rfl⟩
    · simp only [step, ht, send] at h
      cases h
      exact .inr ⟨c, selected, rfl, hsel, rfl, rfl, rfl⟩
  | pollQuality outcome completedNs =>
    refine .inl ?_
    simp only [step, pollAdaptiveQualityDispatcher] at h
    split at h
    · exact ⟨r, h, rfl, rfl, rfl⟩
    · split at h
      · exact ⟨r, h, rfl, rfl, rfl⟩
      · cases outcome with
        | none => exact ⟨r, h, rfl, rfl, rfl⟩
        | some status =>
          cases status with
          | restored => cases h
          | stateUnknown => cases h
          | unsupported => cases h
          | applied =>
            simp only [settle] at h
            split at h
            · simp only [applyReceipt, confirmResponse, Option.map_eq_some_iff] at h
              obtain ⟨r₀, hr₀, hconf⟩ := h
              refine ⟨r₀, hr₀, ?_⟩
              split at hconf <;> subst hconf <;> exact ⟨rfl, rfl, rfl⟩
            · exact ⟨r, h, rfl, rfl, rfl⟩
  | observe result =>
    refine .inl ⟨r, ?_, rfl, rfl, rfl⟩
    simp only [step] at h
    split at h
    · exact h
    · unfold observeAdaptiveQualityResponse at h
      split at h
      · split at h
        · exact h
        · split at h <;> cases h
      · exact h
  | frameRateModeChanged => cases h
  | pollMode outcome => exact .inl ⟨r, by simpa [step] using h, rfl, rfl, rfl⟩
  | reconcile c => exact .inl ⟨r, by simpa [step] using h, rfl, rfl, rfl⟩
  | toggle live nowNs => exact .inl ⟨r, by simpa [step] using h, rfl, rfl, rfl⟩
  | detach d => exact .inl ⟨r, by simpa [step] using h, rfl, rfl, rfl⟩
  | bindProcess sameProcess => exact .inl ⟨r, by simpa [step] using h, rfl, rfl, rfl⟩
  | prepareLaunch => exact .inl ⟨r, by simpa [step] using h, rfl, rfl, rfl⟩
  | restoreProtectedSession => exact .inl ⟨r, h, rfl, rfl, rfl⟩
  | mapReady nowNs => exact .inl ⟨r, h, rfl, rfl, rfl⟩
  | actuate op => exact .inl ⟨r, h, rfl, rfl, rfl⟩

end AdaptiveSession

/-! ## 2. The ledger of judged reductions -/

/-- The reduction a call selects, and its step. -/
def AdaptiveSession.reduces (s : AdaptiveSession F) :
    SessionOp F → Option (AdaptiveRuntimeControlSelection × ℤ)
  | .control c =>
    if selectionKind (s.selectionInput c) = .reduction then
      (s.selection c).map fun selected => (selected, (s.selectionInput c).reductionStep)
    else none
  | _ => none

theorem AdaptiveSession.reduces_eq_some {s : AdaptiveSession F} {op : SessionOp F}
    {selected : AdaptiveRuntimeControlSelection} {amount : ℤ}
    (h : (selected, amount) ∈ s.reduces op) :
    ∃ c, op = .control c ∧ s.selection c = some selected ∧
      selectionKind (s.selectionInput c) = .reduction ∧
      (s.selectionInput c).reductionStep = amount := by
  cases op with
  | control c =>
    simp only [reduces] at h
    split at h
    · rename_i hkind
      simp only [Option.mem_def, Option.map_eq_some_iff, Prod.mk.injEq] at h
      obtain ⟨selected', hsel, rfl, hamount⟩ := h
      exact ⟨c, rfl, hsel, hkind, hamount⟩
    · cases h
  | _ => cases h

theorem AdaptiveSession.reduces_control {s : AdaptiveSession F}
    {c : AdaptiveSession.ControlFrame F} {selected : AdaptiveRuntimeControlSelection}
    (hsel : s.selection c = some selected)
    (hkind : selectionKind (s.selectionInput c) = .reduction) :
    (selected, (s.selectionInput c).reductionStep) ∈ s.reduces (.control c) := by
  simp only [reduces, hkind, if_true, hsel, Option.map_some, Option.mem_def]

/-- The recorded session, and for each group the highest level from which a reduction of it has
been judged non-improving since the floors were last reset. -/
structure Ledger (F : Type) extends Recorded F where
  law : QualityGroup → Option ℤ

namespace Ledger

variable {t : Ledger F}

/-- The law after a reduction of `resource` has been judged non-improving. -/
def raise (t : Ledger F) (resource : AdaptiveResourceControl) (g : QualityGroup) : Option ℤ :=
  if resource.writes g then
    some (Max.max ((t.law g).getD (t.before.level g)) (t.before.level g))
  else t.law g

/-- The ledger never influences the session. -/
def step (t : Ledger F) (op : SessionOp F) : Ledger F where
  toRecorded := t.toRecorded.step op
  law :=
    if t.session.resetsFloor op then fun _ => none
    else match t.session.judged op with
      | some (resource, _) => t.raise resource
      | none => t.law

/-- The ledger of a new session. -/
def init (settings : QualitySettings) (enabled : Bool) : Ledger F where
  session := AdaptiveSession.init settings enabled
  before := .reset 100
  law := fun _ => none

/-- The call does not select a reduction that lowers a group below its law. -/
def Respects (t : Ledger F) (op : SessionOp F) : Prop :=
  ∀ reduction ∈ t.session.reduces op, ∀ g, reduction.1.resource.writes g = true →
    ∀ level ∈ t.law g, level ≤ reduction.1.quality

/-- The condition on one call.  A reduction judged non-improving found the groups of its control
level with one another; and a mixed reduction is selected only where none of its four floors
stops it: each is no higher than the minimum or the lowest of the four, or leaves room for the
step. -/
def Even (t : Ledger F) (op : SessionOp F) : Prop :=
  (∀ taken ∈ t.session.judged op, ∀ g g', taken.1.writes g = true → taken.1.writes g' = true →
    t.before.level g = t.before.level g') ∧
  (∀ reduction ∈ t.session.reduces op, reduction.1.resource = .mixed →
    ∀ g, AdaptiveResourceControl.mixed.writes g = true →
      t.session.floor.level g ≤
          Max.max t.session.settings.minimum (t.session.floor.controlQuality .mixed) ∨
        t.session.floor.level g ≤ t.session.quality.controlQuality .mixed - reduction.2)

instance (t : Ledger F) (op : SessionOp F) : Decidable (t.Respects op) :=
  inferInstanceAs (Decidable (∀ reduction ∈ t.session.reduces op, ∀ g, _ → ∀ level ∈ t.law g, _))

instance (t : Ledger F) (op : SessionOp F) : Decidable (t.Even op) :=
  inferInstanceAs (Decidable ((∀ taken ∈ t.session.judged op, _) ∧
    ∀ reduction ∈ t.session.reduces op, _))

/-- The invariant: the floors carry the law, and so does the level a reduction in progress
started from. -/
structure Sound (t : Ledger F) : Prop where
  recorded : t.toRecorded.Sound
  covered : ∀ g level, t.law g = some level → level ≤ t.session.floor.level g
  window : ∀ r, t.session.response = some r → r.toQuality < r.fromQuality →
    ∀ g level, r.resource.writes g = true → t.law g = some level → level ≤ r.fromQuality

/-- **One call respects the law** when its condition holds. -/
theorem Sound.respects (ht : t.Sound) {op : SessionOp F} (heven : t.Even op) : t.Respects op := by
  rintro ⟨selected, amount⟩ hreduces g hwrites level hlaw
  obtain ⟨c, rfl, hsel, hkind, rfl⟩ := AdaptiveSession.reduces_eq_some hreduces
  simp only at hwrites ⊢
  obtain ⟨hred, hcur, hfloor⟩ := AdaptiveSession.selection_kind_reduction hsel hkind
  have hcovered := ht.covered g level hlaw
  have hfloored := hred.floored
  have hstepped := hred.stepped
  rw [hcur] at hstepped
  rw [hfloor] at hfloored
  by_cases hm : selected.resource = .mixed
  · rw [hm] at hwrites hfloored hstepped
    have hmin : (t.session.selectionInput c).minimumQuality = t.session.settings.minimum := rfl
    rw [hmin] at hfloored
    rcases heven.2 _ hreduces hm g hwrites with hlow | hroom
    · omega
    · simp only at hroom
      omega
  · rw [← t.session.floor.controlQuality_eq_level hm hwrites] at hfloored
    omega

/-- A judged reduction raises the law no higher than the floors it leaves. -/
theorem Sound.covered_judged (ht : t.Sound) {op : SessionOp F} (heven : t.Even op)
    {resource : AdaptiveResourceControl} {quality : ℤ}
    (hjudged : t.session.judged op = some (resource, quality)) {g : QualityGroup} {level : ℤ}
    (hlaw : t.raise resource g = some level) :
    level ≤ (t.session.floor.apply
      { sequence := 0, resource := resource, quality := quality }).level g := by
  obtain ⟨r, hr, happlied, hlower, hknown, hres, hfrom⟩ :=
    AdaptiveSession.exists_of_judged hjudged
  obtain ⟨hmax, hmin⟩ := ht.recorded.session.response r hr
  have hmin := hmin hlower
  have hbefore := ht.recorded.window r hr happlied
  rw [hres] at hbefore
  rw [hfrom] at hmax hmin hbefore
  unfold raise at hlaw
  split at hlaw
  · rename_i hwrites
    rw [AdaptiveResourceQualityState.level_apply_of_writes _ hwrites, intClamp_of_mem
      (t.session.settings.ten_le_minimum.trans hmin)
      (hmax.trans t.session.settings.maximum_le_hundred)]
    -- the groups were level, so the group's own level is the one the floors are set to
    obtain ⟨g', hg', hlevel⟩ := t.before.exists_controlQuality_eq hwrites
    have hown : t.before.level g = quality := by
      rw [heven.1 _ hjudged g g' hwrites hg', hlevel, hbefore]
    cases hlaw
    refine max_le ?_ hown.le
    cases hold : t.law g with
    | none => exact hown.le
    | some old =>
      rw [← hfrom]
      exact ht.window r hr hlower g old (by rw [hres]; exact hwrites) hold
  · rename_i hwrites
    have hrecover : resource ≠ .recover := by rintro rfl; cases hknown
    rw [AdaptiveResourceQualityState.level_apply_of_not_writes _
      (Bool.eq_false_iff.mpr hwrites) hrecover]
    exact ht.covered g level hlaw

/-- **One call keeps the invariant** when its condition holds. -/
theorem Sound.step (ht : t.Sound) {op : SessionOp F} (heven : t.Even op) : (t.step op).Sound := by
  refine ⟨ht.recorded.step op, ?_, ?_⟩
  · intro g level hlaw
    simp only [Ledger.step] at hlaw
    split at hlaw
    · cases hlaw
    · rename_i hreset
      cases hjudged : t.session.judged op with
      | some taken =>
        obtain ⟨resource, quality⟩ := taken
        rw [hjudged] at hlaw
        have hfloor : (t.step op).session.floor = _ := (AdaptiveSession.step_judged hjudged).2
        rw [hfloor]
        exact ht.covered_judged heven hjudged hlaw
      | none =>
        rw [hjudged] at hlaw
        have hfloor : (t.step op).session.floor = t.session.floor :=
          AdaptiveSession.step_floor (Bool.eq_false_iff.mpr hreset) hjudged
        rw [hfloor]
        exact ht.covered g level hlaw
  · intro r hr hlower g level hwrites hlaw
    simp only [Ledger.step] at hlaw
    split at hlaw
    · cases hlaw
    · cases hjudged : t.session.judged op with
      | some taken =>
        -- the verdict closed the window
        obtain ⟨resource, quality⟩ := taken
        have hclosed : (t.step op).session.response = none := (AdaptiveSession.step_judged hjudged).1
        rw [hclosed] at hr
        cases hr
      | none =>
        rw [hjudged] at hlaw
        rcases AdaptiveSession.step_command hr with ⟨r₀, hr₀, hres, hfrom, hto⟩ |
          ⟨c, selected, rfl, hsel, hres, hto, hfrom⟩
        · rw [← hfrom]
          exact ht.window r₀ hr₀ (by omega) g level (by rw [hres]; exact hwrites) hlaw
        · -- what lowers its control is a reduction, and a reduction respects the law
          have hdown : selected.quality < t.session.quality.controlQuality selected.resource := by
            omega
          have hkind := ht.recorded.session.selection_lowers hsel hdown
          have hrespects := ht.respects heven _ (AdaptiveSession.reduces_control hsel hkind) g
            (hres ▸ hwrites) level hlaw
          simp only at hrespects
          omega

theorem sound_init (settings : QualitySettings) (enabled : Bool) :
    (init settings enabled : Ledger F).Sound := by
  refine ⟨⟨AdaptiveSession.sound_init settings enabled, ?_⟩, ?_, ?_⟩
  · rintro r ⟨⟩
  · rintro g level ⟨⟩
  · rintro r ⟨⟩

/-- The GPU reduction is judged non-improving and rolled back, and the pressure returns. -/
def gpuHeld : List (SessionOp ℚ) :=
  Recorded.gpuReduced ++ [.observe (some .noClearChange),
    .control (Recorded.pressedFrame .gpu (3 / 4) 70), .pollQuality (some .applied) 70500000000,
    .control (Recorded.pressedFrame .gpu (3 / 4) 80)]

/-- The same, but the pressure that returns is attributed to no resource. -/
def gpuHeldThenMixed : List (SessionOp ℚ) :=
  Recorded.gpuReduced ++ [.observe (some .noClearChange),
    .control (Recorded.pressedFrame .gpu (3 / 4) 70), .pollQuality (some .applied) 70500000000]

end Ledger

end Kf2Optimizer.Optimizer
