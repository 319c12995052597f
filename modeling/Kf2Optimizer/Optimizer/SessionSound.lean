/-
# What every adaptive session keeps

`Sound` is the invariant of `AdaptiveSession`, and `run_sound` is its induction.  Two parts of
it carry the rest: the composition is within the configured maximum unless it is the one KF2
restored (`levels`), in which case no command goes out; and a command in flight finds the
composition it was sent from (`awaiting`), because whatever replaces the composition drops the
pending command first.

The consequence the floor law and the rollback law rest on is `selection_lowers`: a command
below the level of its control is a REDUCTION, never a rollback and never a recovery.
-/
import Kf2Optimizer.Optimizer.Session

set_option linter.unusedSectionVars false

namespace Kf2Optimizer.Optimizer

open DoubleOps

variable {F : Type} [DoubleOps F]

/-! ## 1. Levels of a composition -/

namespace AdaptiveResourceQualityState

/-- Every control reads the level of some group. -/
theorem exists_level_eq (q : AdaptiveResourceQualityState) (r : AdaptiveResourceControl) :
    ∃ g, q.level g = q.controlQuality r := by
  have heff : ∃ g, q.level g = q.effectiveQuality := by
    have : q.effectiveQuality = q.cpu ∨ q.effectiveQuality = q.gpu ∨
        q.effectiveQuality = q.vram ∨ q.effectiveQuality = q.ram ∨
        q.effectiveQuality = q.overdraw ∨ q.effectiveQuality = q.effects := by
      unfold effectiveQuality
      omega
    rcases this with h | h | h | h | h | h
    · exact ⟨.cpu, h.symm⟩
    · exact ⟨.gpu, h.symm⟩
    · exact ⟨.vram, h.symm⟩
    · exact ⟨.ram, h.symm⟩
    · exact ⟨.overdraw, h.symm⟩
    · exact ⟨.effects, h.symm⟩
  cases r with
  | cpu => exact ⟨.cpu, rfl⟩
  | gpu => exact ⟨.gpu, rfl⟩
  | vram => exact ⟨.vram, rfl⟩
  | ram => exact ⟨.ram, rfl⟩
  | overdraw => exact ⟨.overdraw, rfl⟩
  | effects => exact ⟨.effects, rfl⟩
  | mixed =>
    obtain ⟨g, -, hg⟩ := q.exists_controlQuality_eq (r := .mixed) (g := .cpu) rfl
    exact ⟨g, hg⟩
  | recover => exact heff
  | enable => exact heff
  | disable => exact heff

theorem controlQuality_le_of_level_le {q : AdaptiveResourceQualityState} {m : ℤ}
    (h : ∀ g, q.level g ≤ m) (r : AdaptiveResourceControl) : q.controlQuality r ≤ m := by
  obtain ⟨g, hg⟩ := q.exists_level_eq r
  rw [← hg]
  exact h g

theorem level_apply_le {q : AdaptiveResourceQualityState} {m : ℤ} (hm : 10 ≤ m)
    (h : ∀ g, q.level g ≤ m) {r : AdaptiveControlReceipt} (hr : r.quality ≤ m)
    (g : QualityGroup) : (q.apply r).level g ≤ m := by
  have hclamp : intClamp r.quality 10 100 ≤ m := by
    unfold intClamp
    split
    · exact hm
    · split <;> omega
  rw [level_apply]
  split
  · exact hclamp
  · split
    · exact max_le (h g) hclamp
    · exact h g

end AdaptiveResourceQualityState

theorem level_reset_hundred (g : QualityGroup) :
    (AdaptiveResourceQualityState.reset 100).level g = 100 := by
  rw [AdaptiveResourceQualityState.level_reset]; rfl

theorem QualitySettings.level_reset_maximum (settings : QualitySettings) (g : QualityGroup) :
    (AdaptiveResourceQualityState.reset settings.maximum).level g = settings.maximum := by
  rw [AdaptiveResourceQualityState.level_reset, intClamp_of_mem]
  · exact settings.ten_le_minimum.trans settings.minimum_le_maximum
  · exact settings.maximum_le_hundred

namespace AdaptiveSession

/-! ## 2. The invariant -/

/-- A command in flight is the pending one, and the composition is the one it was sent from. -/
structure Awaiting (s : AdaptiveSession F) (p : AdaptiveRuntimePendingRequest) : Prop where
  request : s.inFlight = some ⟨p.sequence, p.resource, p.requestedQuality⟩
  previous : p.previousQuality = s.quality.controlQuality p.resource
  level_le : ∀ g, s.quality.level g ≤ s.settings.maximum
  requested_le : p.requestedQuality ≤ s.settings.maximum
  token : s.token = true
  gameProcess : s.gameProcess = true
  /-- The window that is open, if any, is the command's own. -/
  window : ∀ r, s.response = some r →
    r.applied = 0 ∧ r.resource = p.resource ∧ r.fromQuality = p.previousQuality

/-- While the composition is unknown, no response is being observed, and the queued rollback is
not below the level of its control. -/
structure Unverified (s : AdaptiveSession F) : Prop where
  response : ∀ r, s.response = some r → r.applied = 0
  rollback : ∀ target resource, s.rollbackTarget = some target →
    s.rollbackResource = some resource →
    s.quality.controlQuality resource ≤ intClamp target s.settings.minimum s.settings.maximum

/-- Everything remembered of the composition is within the configured bounds. -/
structure InRange (s : AdaptiveSession F) : Prop where
  levels : (∀ g, s.quality.level g ≤ s.settings.maximum) ∨ ∀ g, s.quality.level g = 100
  target : ∀ target, s.rollbackTarget = some target → target ≤ s.settings.maximum
  response : ∀ r, s.response = some r → r.fromQuality ≤ s.settings.maximum ∧
    (r.toQuality < r.fromQuality → s.settings.minimum ≤ r.fromQuality)

/-- The part of the invariant that does not speak of the pending command. -/
structure Coherent (s : AdaptiveSession F) : Prop extends s.InRange where
  unverified : s.known = false → s.debt = false → s.Unverified

/-- The invariant of a session. -/
structure Sound (s : AdaptiveSession F) : Prop extends s.Coherent where
  awaiting : ∀ p, s.pending = some p → s.Awaiting p
  /-- A debt is not restored over a pending command. -/
  restoring : s.debt = true → s.modePending = some false → s.pending = none

theorem sound_init (settings : QualitySettings) (enabled : Bool) :
    (init settings enabled : AdaptiveSession F).Sound where
  levels := .inr level_reset_hundred
  target := by rintro t ⟨⟩
  response := by rintro r ⟨⟩
  unverified := by rintro ⟨⟩
  awaiting := by rintro p ⟨⟩
  restoring := by rintro ⟨⟩

/-! ## 3. What a selection knows -/

variable {s : AdaptiveSession F} {c : ControlFrame F} {selected : AdaptiveRuntimeControlSelection}

theorem selection_eq_some (h : s.selection c = some selected) :
    s.debt = false ∧ s.gameProcess = true ∧
      selectAdaptiveRuntimeControl (s.selectionInput c) = some selected := by
  unfold selection at h
  split at h
  · cases h
  · rename_i hopen
    simp only [Bool.or_eq_true, not_or, Bool.not_eq_true, Bool.not_eq_false'] at hopen
    exact ⟨hopen.1.1, hopen.2, h⟩

/-- **A command goes out only from a composition within the maximum.** -/
theorem Sound.level_le_of_selection (hs : s.Sound) (h : s.selection c = some selected) :
    ∀ g, s.quality.level g ≤ s.settings.maximum := by
  have hp := (select_safe _ _ (selection_eq_some h).2.2).1
  rcases hs.levels with hle | hall
  · exact hle
  · -- the restored composition is 100 throughout, so the maximum that admits it is 100
    have hread : ∃ r, (s.selectionInput c).currentQuality = s.quality.controlQuality r := by
      by_cases hst : c.state = .stable
      · exact ⟨.recover, by simp [selectionInput, hst, AdaptiveResourceQualityState.controlQuality]⟩
      · exact ⟨adaptiveRuntimeResource c.primaryResource c.primaryConfidence, if_neg hst⟩
    obtain ⟨r, hr⟩ := hread
    obtain ⟨g', hg'⟩ := s.quality.exists_level_eq r
    have hmax := hp.current.2
    rw [hr, ← hg', hall g'] at hmax
    intro g
    rw [hall g]
    exact hmax

theorem selection_kind_reduction {s : AdaptiveSession F} (h : s.selection c = some selected)
    (hk : selectionKind (s.selectionInput c) = .reduction) :
    IsReduction (s.selectionInput c) selected ∧
      (s.selectionInput c).currentQuality = s.quality.controlQuality selected.resource ∧
      (s.selectionInput c).reductionFloorQuality = s.floor.controlQuality selected.resource := by
  have hsafe := (select_safe _ _ (selection_eq_some h).2.2).2.2
  rw [hk] at hsafe
  have hres : selected.resource = adaptiveRuntimeResource c.primaryResource c.primaryConfidence :=
    hsafe.resource
  have hstate : c.state ≠ .stable := by
    intro hst
    have hp : c.state = .emergency ∨ c.state = .intervention := hsafe.pressed
    rw [hst] at hp
    simp at hp
  refine ⟨hsafe, ?_, ?_⟩
  · simp only [selectionInput, hstate, if_false, hres]
  · simp only [selectionInput, hres]

/-- A rollback does not lower its control. -/
theorem Sound.rollback_raises (hs : s.Sound) (h : s.selection c = some selected)
    (hk : selectionKind (s.selectionInput c) = .rollback) :
    s.quality.controlQuality selected.resource ≤ selected.quality := by
  obtain ⟨hdebt, -, hsel⟩ := selection_eq_some h
  have hqueued := (select_safe _ _ hsel).2.2
  rw [hk] at hqueued
  cases htarget : s.rollbackTarget with
  | none =>
    simp [AdaptiveRuntimeControlInput.queuedRollback, selectionInput, htarget] at hqueued
  | some target =>
    cases hresource : s.rollbackResource with
    | none =>
      simp [AdaptiveRuntimeControlInput.queuedRollback, selectionInput, htarget, hresource]
        at hqueued
    | some resource =>
      simp only [AdaptiveRuntimeControlInput.queuedRollback, selectionInput, htarget, hresource,
        Option.some.injEq] at hqueued
      subst hqueued
      cases hknown : s.known with
      | false => exact (hs.unverified hknown hdebt).rollback target resource htarget hresource
      | true =>
        have hraises : (s.selectionInput c).rollbackRaises = true := by
          unfold selectionKind at hk
          split at hk
          · rename_i hdue
            simp only [Bool.and_eq_true, Bool.or_eq_true, Bool.not_eq_true'] at hdue
            rcases hdue.2 with hu | hr
            · have : s.known = false := hu
              rw [hknown] at this
              cases this
            · exact hr
          · split at hk <;> cases hk
        simp only [AdaptiveRuntimeControlInput.rollbackRaises, selectionInput, htarget, hresource,
          Option.map_some, decide_eq_true_eq] at hraises
        exact le_intClamp_of_le (hraises.le.trans (hs.target target htarget)) hraises.le

/-- A recovery does not lower its control. -/
theorem recovery_raises (h : s.selection c = some selected)
    (hk : selectionKind (s.selectionInput c) = .recovery) :
    s.quality.controlQuality selected.resource ≤ selected.quality := by
  have hsafe := (select_safe _ _ (selection_eq_some h).2.2).2.2
  rw [hk] at hsafe
  have hst : c.state = .stable := by
    unfold selectionKind at hk
    split at hk
    · cases hk
    · split at hk
      · assumption
      · cases hk
  have hraises := hsafe.raises
  rw [hsafe.resource]
  simp only [selectionInput, hst, if_true] at hraises
  exact hraises.le

/-- **What lowers its control is a reduction.** -/
theorem Sound.selection_lowers (hs : s.Sound) (h : s.selection c = some selected)
    (hlower : selected.quality < s.quality.controlQuality selected.resource) :
    selectionKind (s.selectionInput c) = .reduction := by
  cases hk : selectionKind (s.selectionInput c) with
  | reduction => rfl
  | rollback => exact absurd (hs.rollback_raises h hk) (by omega)
  | recovery => exact absurd (recovery_raises h hk) (by omega)

/-! ## 4. One call -/

/-- **What `update_adaptive_controller` can do**: touch the tracker, or send the selection. -/
theorem updateAdaptiveController_cases (s : AdaptiveSession F) (c : ControlFrame F) :
    (∃ t, s.updateAdaptiveController c = { s with actuation := t }) ∨
      ∃ selected sequence t action, s.selection c = some selected ∧
        nextAdaptiveControlSequence s.sequence = some sequence ∧
        s.updateAdaptiveController c =
          s.send t action ⟨sequence, selected.resource, selected.quality⟩ c.nowNs := by
  unfold updateAdaptiveController
  cases hsel : s.selection c with
  | none => exact .inl ⟨s.actuation, rfl⟩
  | some selected =>
    cases hseq : nextAdaptiveControlSequence s.sequence with
    | none => exact .inl ⟨s.actuation, rfl⟩
    | some sequence =>
      simp only
      split
      · exact .inl ⟨_, rfl⟩
      · split
        · exact .inl ⟨_, rfl⟩
        · split
          · exact .inr ⟨selected, sequence, _, _, rfl, rfl, rfl⟩
          · exact .inl ⟨_, rfl⟩

/-- **The frame of the invariant**: the fields it does not read may change, and the mode that
is waited for may become anything that does not restore a debt over a pending command. -/
theorem Sound.frame (hs : s.Sound) {enabled modeConfirmed : Bool}
    {floor : AdaptiveResourceQualityState} {actuation : Tracker F}
    {sequence lastDispatchNs lastAppliedNs mapReadyNs modeLastAttemptNs : ℕ}
    {modePending modeInFlight : Option Bool}
    (hmode : s.debt = true → modePending = some false → s.pending = none) :
    ({ s with
      enabled := enabled, floor := floor, actuation := actuation
      sequence := sequence, lastDispatchNs := lastDispatchNs, lastAppliedNs := lastAppliedNs
      mapReadyNs := mapReadyNs, modePending := modePending, modeInFlight := modeInFlight
      modeConfirmed := modeConfirmed, modeLastAttemptNs := modeLastAttemptNs } :
      AdaptiveSession F).Sound where
  levels := hs.levels
  target := hs.target
  response := hs.response
  unverified := by
    intro hk hd
    obtain ⟨hresp, hroll⟩ := hs.unverified hk hd
    exact ⟨hresp, hroll⟩
  awaiting := by
    intro p hp
    obtain ⟨hreq, hprev, hle, hto, htoken, hbound, hwin⟩ := hs.awaiting p hp
    exact ⟨hreq, hprev, hle, hto, htoken, hbound, hwin⟩
  restoring := hmode

/-- Closing the window, and what a verdict queues, leaves a command in flight as it was. -/
theorem Sound.awaiting_closed (hs : s.Sound) {floor : AdaptiveResourceQualityState}
    {rollbackTarget : Option ℤ} {rollbackResource : Option AdaptiveResourceControl} :
    ∀ p, s.pending = some p → ({ s with
      response := none, floor := floor, rollbackTarget := rollbackTarget
      rollbackResource := rollbackResource } : AdaptiveSession F).Awaiting p := by
  intro p hp
  obtain ⟨hreq, hprev, hle, hto, htoken, hbound, -⟩ := hs.awaiting p hp
  refine ⟨hreq, hprev, hle, hto, htoken, hbound, ?_⟩
  rintro r ⟨⟩

/-- A coherent session without a pending command is sound. -/
theorem Coherent.sound_of_idle (hs : s.Coherent) (hpending : s.pending = none) : s.Sound where
  toCoherent := hs
  awaiting := by
    intro p hp
    rw [hpending] at hp
    cases hp
  restoring := fun _ _ => hpending

/-- An outcome that leaves the composition and what is known of it alone. -/
theorem Coherent.settled (hs : s.Coherent) {actuation : Tracker F}
    {pending : Option AdaptiveRuntimePendingRequest} {inFlight : Option AdaptiveControlRequest} :
    ({ s with actuation := actuation, pending := pending, inFlight := inFlight } :
      AdaptiveSession F).Coherent :=
  ⟨⟨hs.levels, hs.target, hs.response⟩, fun hk hd =>
    ⟨(hs.unverified hk hd).response, (hs.unverified hk hd).rollback⟩⟩

theorem Sound.control (hs : s.Sound) (c : ControlFrame F) :
    (s.updateAdaptiveController c).Sound := by
  rcases s.updateAdaptiveController_cases c with ⟨t, ht⟩ | ⟨selected, sequence, t, action, hsel, -, ht⟩
  · rw [ht]
    exact hs.frame hs.restoring
  · rw [ht]
    have hp := (select_safe _ _ (selection_eq_some hsel).2.2).1
    have hbounds := (select_safe _ _ (selection_eq_some hsel).2.2).2.1
    have hdebt := (selection_eq_some hsel).1
    have hle := hs.level_le_of_selection hsel
    have hbridge : s.token = true := by
      have h := hp.bridge
      simp only [selectionInput, Bool.and_eq_true] at h
      exact h.1.1.2
    refine ⟨⟨⟨.inl hle, hs.target, ?_⟩, ?_⟩, ?_, ?_⟩
    · rintro r ⟨⟩
      refine ⟨AdaptiveResourceQualityState.controlQuality_le_of_level_le hle _, fun hlower => ?_⟩
      obtain ⟨hred, hcur, -⟩ := selection_kind_reduction hsel (hs.selection_lowers hsel hlower)
      have := hp.current.1
      rw [hcur] at this
      exact this
    · intro hk hd
      refine ⟨?_, (hs.unverified hk hd).rollback⟩
      rintro r ⟨⟩
      rfl
    · rintro p ⟨⟩
      refine ⟨rfl, rfl, hle, hbounds.2, hbridge, (selection_eq_some hsel).2.1, ?_⟩
      rintro r ⟨⟩
      exact ⟨rfl, rfl, rfl⟩
    · intro hd
      have : s.debt = true := hd
      rw [hdebt] at this
      cases this

theorem Awaiting.coherent_applied {p : AdaptiveRuntimePendingRequest} (hp : s.Awaiting p)
    (hs : s.Coherent) {request : AdaptiveControlRequest}
    (hrequest : request.quality ≤ s.settings.maximum) (completedNs : ℕ) :
    (s.applyReceipt p request completedNs).Coherent where
  levels := .inl (AdaptiveResourceQualityState.level_apply_le
    (s.settings.ten_le_minimum.trans s.settings.minimum_le_maximum) hp.level_le hrequest)
  target := by
    intro target ht
    simp only [applyReceipt] at ht
    split at ht
    · cases ht
    · exact hs.target target ht
  response := by
    intro r hr
    simp only [applyReceipt, confirmResponse, Option.map_eq_some_iff] at hr
    obtain ⟨r', hr', hconf⟩ := hr
    split at hconf <;> subst hconf <;> exact hs.response r' hr'
  unverified := by rintro ⟨⟩

theorem Awaiting.coherent_settle {p : AdaptiveRuntimePendingRequest} (hp : s.Awaiting p)
    (hs : s.Coherent) {request : AdaptiveControlRequest}
    (hrequest : request.quality ≤ s.settings.maximum)
    (outcome : Option AdaptiveControlReceiptStatus) (completedNs : ℕ) :
    (s.settle p request outcome completedNs).Coherent := by
  unfold settle
  cases outcome with
  | none => exact hs.settled
  | some status =>
    cases status with
    | restored =>
      refine ⟨⟨hs.levels, ?_, ?_⟩, ?_⟩
      · rintro t ⟨⟩
      · rintro r ⟨⟩
      · rintro ⟨⟩
    | stateUnknown =>
      have hprev := AdaptiveResourceQualityState.controlQuality_le_of_level_le hp.level_le p.resource
      refine ⟨⟨hs.levels, ?_, ?_⟩, fun _ _ => ⟨?_, ?_⟩⟩
      · rintro t ⟨⟩
        rw [hp.previous]
        exact hprev
      · rintro r ⟨⟩
      · rintro r ⟨⟩
      · -- the level before the command is what is queued, and the composition still has it
        rintro target resource ⟨⟩ ⟨⟩
        exact le_intClamp_of_le hprev hp.previous.ge
    | unsupported =>
      refine ⟨⟨hs.levels, hs.target, ?_⟩, fun hk hd => ⟨?_, (hs.unverified hk hd).rollback⟩⟩
      · rintro r ⟨⟩
      · rintro r ⟨⟩
    | applied =>
      simp only
      split
      · exact (hp.coherent_applied hs hrequest completedNs).settled
      · exact hs.settled

theorem Sound.pollQuality (hs : s.Sound) (outcome : Option AdaptiveControlReceiptStatus)
    (completedNs : ℕ) : (s.pollAdaptiveQualityDispatcher outcome completedNs).Sound := by
  unfold pollAdaptiveQualityDispatcher
  cases hflight : s.inFlight with
  | none => exact hs
  | some request =>
    cases hpending : s.pending with
    | none => exact hs.settled.sound_of_idle rfl
    | some p =>
      have hp := hs.awaiting p hpending
      have hrequest : request = ⟨p.sequence, p.resource, p.requestedQuality⟩ := by
        have := hp.request
        rw [hflight] at this
        exact Option.some.inj this
      have hle : request.quality ≤ s.settings.maximum := by
        rw [hrequest]
        exact hp.requested_le
      exact (hp.coherent_settle hs.toCoherent hle outcome completedNs).settled.sound_of_idle rfl

theorem Sound.pollMode (hs : s.Sound) (outcome : Option AdaptiveControlReceiptStatus) :
    (s.pollAdaptiveRuntimeMode outcome).Sound := by
  unfold pollAdaptiveRuntimeMode
  split
  · exact hs
  · exact hs.frame hs.restoring
  · rename_i asked expected hflight hmode
    simp only
    split
    · rename_i hrestored
      simp only [Bool.and_eq_true, Bool.not_eq_true'] at hrestored
      have hidle : s.pending = none := by
        refine hs.restoring hrestored.1.1 ?_
        rw [hmode, hrestored.1.2]
      refine Coherent.sound_of_idle ⟨⟨.inr level_reset_hundred, ?_, hs.response⟩, ?_⟩ hidle
      · rintro t ⟨⟩
      · rintro ⟨⟩
    · exact hs.frame fun _ hm => by cases hm

theorem Sound.leaveProvider (hs : s.Sound) : s.leaveProvider.Sound := by
  unfold AdaptiveSession.leaveProvider
  simp only
  split
  · refine ⟨⟨⟨hs.levels, hs.target, hs.response⟩, ?_⟩, ?_, ?_⟩
    · rintro - ⟨⟩
    · intro p hp
      obtain ⟨hreq, hprev, hle, hto, htoken, hbound, hwin⟩ := hs.awaiting p hp
      exact ⟨hreq, hprev, hle, hto, htoken, hbound, hwin⟩
    · rintro - ⟨⟩
  · split
    · exact hs.frame fun _ hm => by cases hm
    · exact hs.frame fun _ hm => by cases hm

theorem Sound.attemptMode (hs : s.Sound) (c : ReconcileFrame)
    (hbusy : s.debt = true → s.pending = none) : (s.attemptMode c).Sound := by
  unfold AdaptiveSession.attemptMode
  simp only
  split
  · exact hs.frame hs.restoring
  · split
    · exact hs.frame fun hd _ => hbusy hd
    · exact hs.frame hs.restoring

theorem Sound.reconcile (hs : s.Sound) (c : ReconcileFrame) :
    (s.reconcileAdaptiveRuntimeMode c).Sound := by
  unfold reconcileAdaptiveRuntimeMode
  have hentered : (s.enterProvider c.newProvider).Sound := by
    unfold enterProvider
    split
    · exact hs.leaveProvider
    · exact hs
  split
  · exact hs
  · generalize s.enterProvider c.newProvider = entered at hentered ⊢
    simp only
    split
    · exact hentered
    · split
      · exact hentered
      · rename_i hidle
        simp only [Bool.or_eq_true, Bool.and_eq_true, not_or, not_and, Bool.not_eq_true] at hidle
        refine hentered.attemptMode c fun hd => ?_
        -- with the quality dispatcher idle there is no pending command
        cases hpending : entered.pending with
        | none => rfl
        | some p =>
          have hflight := (hentered.awaiting p hpending).request
          have := hidle.2 hd
          rw [hflight] at this
          cases this

theorem Sound.observe (hs : s.Sound) (hdebt : s.debt = false) (result : Option QualityResult) :
    (s.observeAdaptiveQualityResponse result).Sound := by
  unfold observeAdaptiveQualityResponse
  split
  · rename_i verdict r hresponse
    split
    · exact hs
    · rename_i happlied
      -- a confirmed response is only ever held while the composition is known
      have hknown : s.known ≠ false := fun hk =>
        happlied ((hs.unverified hk hdebt).response r hresponse)
      cases hfeedback : s.feedback verdict with
      | none =>
        refine ⟨⟨⟨hs.levels, hs.target, ?_⟩, fun hk => absurd hk hknown⟩, ?_, hs.restoring⟩
        · rintro r' ⟨⟩
        · exact hs.awaiting_closed
      | some taken =>
        obtain ⟨resource, quality⟩ := taken
        have hquality : quality ≤ s.settings.maximum := by
          simp only [feedback, hresponse, adaptiveQualityResponseFeedback] at hfeedback
          rw [if_neg happlied] at hfeedback
          split at hfeedback
          · cases hfeedback
          · split at hfeedback
            · cases hfeedback
            · split at hfeedback
              · cases hfeedback
                exact (hs.response r hresponse).1
              · cases hfeedback
        refine ⟨⟨⟨hs.levels, ?_, ?_⟩, fun hk => absurd hk hknown⟩, ?_, hs.restoring⟩
        · rintro target ⟨⟩
          refine max_le ?_ hquality
          cases htarget : s.rollbackTarget with
          | none => exact s.settings.minimum_le_maximum
          | some target => exact hs.target target htarget
        · rintro r' ⟨⟩
        · exact hs.awaiting_closed
  · exact hs

theorem Coherent.resetLocal (hs : s.Coherent) (enabled : Bool) (nowNs : ℕ) :
    (s.resetLocalAdaptiveControllerForMode enabled nowNs).Sound ∧
      (s.resetLocalAdaptiveControllerForMode enabled nowNs).pending = none := by
  unfold resetLocalAdaptiveControllerForMode
  split
  · refine ⟨Coherent.sound_of_idle ⟨⟨.inr level_reset_hundred, hs.target, hs.response⟩, ?_⟩ rfl, rfl⟩
    rintro ⟨⟩
  · exact ⟨hs.settled.sound_of_idle rfl, rfl⟩

theorem Coherent.reserveDebt (hs : s.Coherent) (enabled : Bool) :
    (s.reserveDebt enabled).Coherent := by
  unfold AdaptiveSession.reserveDebt
  split
  · exact hs
  · refine ⟨⟨hs.levels, hs.target, hs.response⟩, ?_⟩
    rintro - ⟨⟩

/-- A confirmed mode: a disabled one restores the composition. -/
theorem Coherent.confirmMode (hs : s.Coherent) (enabled : Bool) (nowNs : ℕ) :
    ((s.reserveDebt enabled).confirmMode enabled nowNs
      |>.resetLocalAdaptiveControllerForMode enabled nowNs).Sound := by
  cases enabled with
  | true =>
    have hconfirmed : (s.confirmMode true nowNs).Coherent := ⟨⟨hs.levels, hs.target, hs.response⟩,
      fun hk hd => ⟨(hs.unverified hk hd).response, (hs.unverified hk hd).rollback⟩⟩
    exact (hconfirmed.resetLocal true nowNs).1
  | false =>
    refine Coherent.sound_of_idle ⟨⟨.inr level_reset_hundred, hs.target, hs.response⟩, ?_⟩ rfl
    rintro ⟨⟩

theorem Sound.setLive (hs : s.Sound) (enabled : Bool) (live : LiveToggle) (nowNs : ℕ) :
    (s.setLiveAdaptiveEnabled enabled live nowNs).1.Coherent ∧
      ((s.setLiveAdaptiveEnabled enabled live nowNs).2 = true →
        (s.setLiveAdaptiveEnabled enabled live nowNs).1.Sound) := by
  cases live with
  | notRunning => exact ⟨hs.toCoherent, fun _ => hs⟩
  | unreadable => exact ⟨hs.toCoherent, by rintro ⟨⟩⟩
  | unavailable => exact ⟨hs.toCoherent.reserveDebt enabled, by rintro ⟨⟩⟩
  | refused =>
    refine ⟨?_, by rintro ⟨⟩⟩
    obtain ⟨⟨hlevels, htarget, hresponse⟩, hunverified⟩ := hs.toCoherent.reserveDebt enabled
    exact ⟨⟨hlevels, htarget, hresponse⟩, fun hk hd =>
      ⟨(hunverified hk hd).response, (hunverified hk hd).rollback⟩⟩
  | confirmed =>
    have h := hs.toCoherent.confirmMode enabled nowNs
    exact ⟨h.toCoherent, fun _ => h⟩

theorem Sound.toggle (hs : s.Sound) (live : LiveToggle) (nowNs : ℕ) :
    (s.toggleAdaptiveOptimization live nowNs).Sound := by
  unfold toggleAdaptiveOptimization
  have hrequested : ({ s with enabled := !s.enabled } : AdaptiveSession F).Sound :=
    hs.frame hs.restoring
  obtain ⟨hcoherent, hconfirmed⟩ := hrequested.setLive (!s.enabled) live nowNs
  simp only
  split
  · rename_i hok
    exact hconfirmed hok
  · obtain ⟨hsound, hidle⟩ := hcoherent.resetLocal (!s.enabled) nowNs
    exact hsound.frame fun _ _ => hidle

/-! ## 5. Boundaries -/

theorem Sound.restoreLive (hs : s.Sound) (hdebt : s.debt = false) (r : LiveRestore) :
    (s.restoreLiveAdaptiveQuality r).Coherent := by
  cases r with
  | gone =>
    exact ⟨⟨hs.levels, hs.target, hs.response⟩, fun hk _ =>
      ⟨(hs.unverified hk hdebt).response, (hs.unverified hk hdebt).rollback⟩⟩
  | owed =>
    refine ⟨⟨hs.levels, hs.target, hs.response⟩, ?_⟩
    rintro - ⟨⟩
  | refused =>
    refine ⟨⟨hs.levels, hs.target, hs.response⟩, ?_⟩
    rintro - ⟨⟩
  | confirmed =>
    refine ⟨⟨.inr level_reset_hundred, hs.target, hs.response⟩, ?_⟩
    rintro ⟨⟩

theorem Sound.detachRestore (hs : s.Sound) (d : Detach) : (s.detachRestore d).InRange := by
  unfold AdaptiveSession.detachRestore
  split
  · split
    · exact hs.toInRange
    · rename_i hdebt
      exact (hs.restoreLive (Bool.eq_false_iff.mpr hdebt) _).toInRange
  · exact hs.toInRange

theorem InRange.voidDebt (hs : s.InRange) (processCurrent : Bool) :
    (s.voidDebt processCurrent).InRange := by
  unfold AdaptiveSession.voidDebt
  split
  · exact ⟨hs.levels, hs.target, hs.response⟩
  · exact hs

theorem Sound.detach (hs : s.Sound) (d : Detach) : (s.detachTelemetry d).Sound := by
  unfold detachTelemetry
  obtain ⟨hlevels, htarget, hresponse⟩ := (hs.detachRestore d).voidDebt d.processCurrent
  generalize (s.detachRestore d).voidDebt d.processCurrent = t at hlevels htarget hresponse ⊢
  simp only
  split
  · rename_i hdebt
    refine Coherent.sound_of_idle ⟨⟨hlevels, htarget, hresponse⟩, fun _ hd => ?_⟩ rfl
    have : t.debt = false := hd
    rw [hdebt] at this
    cases this
  · refine Coherent.sound_of_idle ⟨⟨.inl fun g => ?_, ?_, hresponse⟩, ?_⟩ rfl
    · exact (t.settings.level_reset_maximum g).le
    · rintro target ⟨⟩
    · rintro ⟨⟩

theorem Sound.bindProcess (hs : s.Sound) (sameProcess : Bool) :
    (s.bindProcess sameProcess).Sound := by
  unfold AdaptiveSession.bindProcess
  split
  · exact hs
  · rename_i hunbound
    have hidle : s.pending = none := by
      cases hpending : s.pending with
      | none => rfl
      | some p => exact absurd (hs.awaiting p hpending).gameProcess hunbound
    split
    · refine Coherent.sound_of_idle ⟨⟨.inl fun g => ?_, ?_, hs.response⟩, ?_⟩ hidle
      · exact (s.settings.level_reset_maximum g).le
      · rintro target ⟨⟩
      · rintro ⟨⟩
    · refine Coherent.sound_of_idle ⟨⟨hs.levels, hs.target, hs.response⟩, fun hk hd => ?_⟩ hidle
      exact ⟨(hs.unverified hk hd).response, (hs.unverified hk hd).rollback⟩

theorem Sound.prepareLaunch (hs : s.Sound) : s.prepareLaunch.Sound := by
  unfold AdaptiveSession.prepareLaunch
  split
  · exact hs
  · rename_i htoken
    have hidle : s.pending = none := by
      cases hpending : s.pending with
      | none => rfl
      | some p => exact absurd (hs.awaiting p hpending).token htoken
    refine Coherent.sound_of_idle ⟨⟨.inl fun g => ?_, ?_, hs.response⟩, fun hk hd => ⟨?_, ?_⟩⟩ hidle
    · exact (s.settings.level_reset_maximum g).le
    · rintro target ⟨⟩
    · exact (hs.unverified hk hd).response
    · rintro target resource ⟨⟩

theorem Sound.restoreProtectedSession (hs : s.Sound) : s.restoreProtectedSession.Sound := by
  refine Coherent.sound_of_idle ⟨⟨hs.levels, hs.target, hs.response⟩, fun hk hd => ?_⟩ rfl
  exact ⟨(hs.unverified hk hd).response, (hs.unverified hk hd).rollback⟩

/-! ## 6. Every run -/

/-- **One call keeps the invariant.** -/
theorem Sound.step (hs : s.Sound) (op : SessionOp F) : (s.step op).Sound := by
  cases op with
  | control c => exact hs.control c
  | pollQuality outcome completedNs => exact hs.pollQuality outcome completedNs
  | pollMode outcome => exact hs.pollMode outcome
  | reconcile c => exact hs.reconcile c
  | observe result =>
    simp only [AdaptiveSession.step]
    split
    · exact hs
    · rename_i hopen
      simp only [Bool.or_eq_true, not_or, Bool.not_eq_true] at hopen
      exact hs.observe hopen.1 result
  | toggle live nowNs => exact hs.toggle live nowNs
  | detach d => exact hs.detach d
  | bindProcess sameProcess => exact hs.bindProcess sameProcess
  | prepareLaunch => exact hs.prepareLaunch
  | restoreProtectedSession => exact hs.restoreProtectedSession
  | mapReady nowNs => exact hs.frame hs.restoring
  | frameRateModeChanged =>
    refine ⟨⟨⟨hs.levels, hs.target, ?_⟩, fun hk hd => ⟨?_, (hs.unverified hk hd).rollback⟩⟩, ?_,
      hs.restoring⟩
    · rintro r ⟨⟩
    · rintro r ⟨⟩
    · exact hs.awaiting_closed
  | actuate op => exact hs.frame hs.restoring

/-- **Every run keeps the invariant.** -/
theorem run_sound (settings : QualitySettings) (enabled : Bool) (ops : List (SessionOp F)) :
    (run settings enabled ops).Sound :=
  StepMachine.exec_invariant (fun _ op hs => hs.step op) ops _ (sound_init settings enabled)

end AdaptiveSession

end Kf2Optimizer.Optimizer
