/-
# The governor and time

Two laws about time.  An evaluation that goes back in time freezes the governor, and a frozen
governor evaluates nothing until it is reset.  And once a quality change has been confirmed,
a frame from before it is not analysed.

Both are carried by the three fields an evaluation reads before anything else
(`Governor.SameClock`): the analysis writes none of them, so along a run without a reset
`last_evaluation_ns_` and `quality_applied_not_before_ns_` only grow and `frozen_` only rises.
A reset clears all three, and with them what happened before it
(`older_frame_after_reset`).
-/
import Kf2Optimizer.Optimizer.Evaluate

set_option linter.unusedSectionVars false

namespace Kf2Optimizer.Optimizer

open DoubleOps StepMachine

variable {F : Type} [DoubleOps F]

/-! ## 1. The governor as a machine -/

/-- A call of a member function of the governor. -/
inductive GovernorCall (F : Type)
  | evaluate (policy : AdaptivePolicy F) (sample : AdaptiveSample F) (nowNs : ℕ)
      (locks : List AdaptiveManualLock)
  | notifyQualityApplied (appliedNs : ℕ)
  | reset

/-- The call is `reset`. -/
def GovernorCall.isReset : GovernorCall F → Bool
  | .reset => true
  | _ => false

namespace Governor

/-- The governor after one call. -/
def call (registry : String → Option AdaptiveSettingRecord) (g : Governor F) :
    GovernorCall F → Governor F
  | .evaluate policy sample nowNs locks => (g.evaluate registry policy sample nowNs locks).1
  | .notifyQualityApplied appliedNs => g.notifyQualityApplied appliedNs
  | .reset => g.reset

/-- The governor after a list of calls on a new one. -/
def run (registry : String → Option AdaptiveSettingRecord) (calls : List (GovernorCall F)) :
    Governor F :=
  exec (call registry) init calls

/-! ## 2. What the analysis leaves alone -/

/-- The fields that say what the governor is bound to and when it may look, as opposed to what
it has seen. -/
structure Bookkeeping where
  lastEvaluationNs : ℕ
  qualityAppliedNotBeforeNs : ℕ
  frozen : Bool
  stabilizationUntilNs : ℕ
  targetFps : ℤ
  identityPid : ℕ
  identityStartId : ℕ
  sessionGeneration : ℕ
  mapGeneration : ℕ
  frameGeneration : ℕ
  frameStreamId : ℕ

/-- The bookkeeping of a governor. -/
def bookkeeping (g : Governor F) : Bookkeeping where
  lastEvaluationNs := g.lastEvaluationNs
  qualityAppliedNotBeforeNs := g.qualityAppliedNotBeforeNs
  frozen := g.frozen
  stabilizationUntilNs := g.stabilizationUntilNs
  targetFps := g.targetFps
  identityPid := g.identityPid
  identityStartId := g.identityStartId
  sessionGeneration := g.sessionGeneration
  mapGeneration := g.mapGeneration
  frameGeneration := g.frameGeneration
  frameStreamId := g.frameStreamId

theorem bookkeeping_updatePressureHysteresis (g : Governor F) (desired : AdaptivePressure)
    (policy : AdaptivePolicy F) (drop : Bool) (nowNs : ℕ) :
    (g.updatePressureHysteresis desired policy drop nowNs).bookkeeping = g.bookkeeping := by
  unfold updatePressureHysteresis
  simp only
  split <;> split <;> rfl

theorem bookkeeping_updateBottleneckHysteresis (g : Governor F) (decision : AdaptiveDecision F)
    (sample : AdaptiveSample F) (nowNs : ℕ) :
    (g.updateBottleneckHysteresis decision sample nowNs).1.bookkeeping = g.bookkeeping := by
  unfold updateBottleneckHysteresis
  simp only
  split
  · rfl
  · split
    · rfl
    · split <;> rfl

/-- **The analysis writes no bookkeeping.** -/
theorem bookkeeping_analyse (registry : String → Option AdaptiveSettingRecord) (g : Governor F)
    (policy : AdaptivePolicy F) (sample : AdaptiveSample F) (nowNs : ℕ)
    (locks : List AdaptiveManualLock) (decision : AdaptiveDecision F) :
    (g.analyse registry policy sample nowNs locks decision).1.bookkeeping = g.bookkeeping := by
  unfold analyse
  simp only
  rw [bookkeeping_updateBottleneckHysteresis, bookkeeping_updatePressureHysteresis]
  rfl

/-- The fields an evaluation reads before anything else are equal. -/
structure SameClock (g g' : Governor F) : Prop where
  lastEvaluation : g'.lastEvaluationNs = g.lastEvaluationNs
  notBefore : g'.qualityAppliedNotBeforeNs = g.qualityAppliedNotBeforeNs
  frozen : g'.frozen = g.frozen

theorem SameClock.refl (g : Governor F) : SameClock g g := ⟨rfl, rfl, rfl⟩

theorem SameClock.trans {g₁ g₂ g₃ : Governor F} (h : SameClock g₁ g₂) (h' : SameClock g₂ g₃) :
    SameClock g₁ g₃ :=
  ⟨h'.lastEvaluation.trans h.lastEvaluation, h'.notBefore.trans h.notBefore,
    h'.frozen.trans h.frozen⟩

theorem SameClock.of_bookkeeping {g g' : Governor F} (h : g'.bookkeeping = g.bookkeeping) :
    SameClock g g' :=
  ⟨congrArg Bookkeeping.lastEvaluationNs h, congrArg Bookkeeping.qualityAppliedNotBeforeNs h,
    congrArg Bookkeeping.frozen h⟩

theorem sameClock_bind (g : Governor F) (policy : AdaptivePolicy F) (sample : AdaptiveSample F)
    (nowNs : ℕ) : SameClock g (g.bind policy sample nowNs).1 := by
  have hretarget : SameClock g (g.retarget policy).1 := by
    unfold retarget
    split
    · split
      · exact ⟨rfl, rfl, rfl⟩
      · split <;> exact ⟨rfl, rfl, rfl⟩
    · exact ⟨rfl, rfl, rfl⟩
  refine hretarget.trans ?_
  unfold bind
  simp only
  split <;> exact ⟨rfl, rfl, rfl⟩

theorem sameClock_evaluateAvailable (registry : String → Option AdaptiveSettingRecord)
    (g : Governor F) (policy : AdaptivePolicy F) (sample : AdaptiveSample F) (nowNs : ℕ)
    (locks : List AdaptiveManualLock) (decision : AdaptiveDecision F) :
    SameClock g (g.evaluateAvailable registry policy sample nowNs locks decision).1 := by
  have hbind := sameClock_bind g policy sample nowNs
  unfold evaluateAvailable
  simp only
  split
  · exact hbind
  · split
    · exact hbind
    · have hclear : SameClock g
          { (g.bind policy sample nowNs).1 with stabilizationUntilNs := 0 } :=
        ⟨hbind.lastEvaluation, hbind.notBefore, hbind.frozen⟩
      split
      · exact hclear
      · split
        · exact hclear
        · exact hclear.trans (.of_bookkeeping (bookkeeping_analyse _ _ _ _ _ _ _))

/-! ## 3. One evaluation -/

/-- **A frozen evaluation** changes nothing but the flag. -/
theorem evaluate_frozen (registry : String → Option AdaptiveSettingRecord) (g : Governor F)
    (policy : AdaptivePolicy F) (sample : AdaptiveSample F) (nowNs : ℕ)
    (locks : List AdaptiveManualLock) (h : g.freezes nowNs = true) :
    (g.evaluate registry policy sample nowNs locks).1 = { g with frozen := true } ∧
      (g.evaluate registry policy sample nowNs locks).2.state = .frozen ∧
      (g.evaluate registry policy sample nowNs locks).2.watchdogFrozen = true ∧
      (g.evaluate registry policy sample nowNs locks).2.pressure = .observing := by
  unfold evaluate
  simp [h, baseDecision]

/-- An evaluation that does not freeze records its time and leaves the rest of the clock. -/
theorem evaluate_clock (registry : String → Option AdaptiveSettingRecord) (g : Governor F)
    (policy : AdaptivePolicy F) (sample : AdaptiveSample F) (nowNs : ℕ)
    (locks : List AdaptiveManualLock) (h : g.freezes nowNs = false) :
    SameClock (g.tick nowNs) (g.evaluate registry policy sample nowNs locks).1 := by
  rw [evaluate_of_monotone registry policy sample locks h]
  unfold evaluateTicked
  split
  · exact SameClock.refl _
  · split
    · exact ⟨rfl, rfl, rfl⟩
    · exact sameClock_evaluateAvailable _ _ _ _ _ _ _

/-- **A frame from before the quality epoch** only moves the evaluation time. -/
theorem evaluate_awaits (registry : String → Option AdaptiveSettingRecord) (g : Governor F)
    (policy : AdaptivePolicy F) (sample : AdaptiveSample F) (nowNs : ℕ)
    (locks : List AdaptiveManualLock) (hclock : g.freezes nowNs = false)
    (h : g.awaitsFreshFrame sample = true) :
    (g.evaluate registry policy sample nowNs locks).1 = g.tick nowNs ∧
      (g.evaluate registry policy sample nowNs locks).2.pressure = .observing := by
  have h' : (g.tick nowNs).awaitsFreshFrame sample = true := h
  rw [evaluate_of_monotone registry policy sample locks hclock]
  unfold evaluateTicked
  rw [if_pos h']
  exact ⟨rfl, rfl⟩

/-- Time never runs back on a governor that is not frozen. -/
theorem freezes_false {g : Governor F} {nowNs : ℕ} (h : g.freezes nowNs = false) :
    g.frozen = false ∧ g.lastEvaluationNs ≤ nowNs := by
  unfold freezes at h
  simp only [Bool.or_eq_false_iff, Bool.and_eq_false_iff, bne_eq_false_iff_eq,
    decide_eq_false_iff_not, Nat.not_lt] at h
  refine ⟨h.1, ?_⟩
  rcases h.2 with h0 | hle
  · omega
  · exact hle

/-! ## 4. Runs without a reset -/

/-- Some evaluation at `t` or later has been recorded, or the governor is frozen. -/
def Past (t : ℕ) (g : Governor F) : Prop := g.frozen = true ∨ t ≤ g.lastEvaluationNs

/-- The quality epoch has reached `a`. -/
def Since (a : ℕ) (g : Governor F) : Prop := a ≤ g.qualityAppliedNotBeforeNs

theorem notify_clock (g : Governor F) (a : ℕ) :
    (g.notifyQualityApplied a).frozen = g.frozen ∧
      (g.notifyQualityApplied a).lastEvaluationNs = g.lastEvaluationNs ∧
      g.qualityAppliedNotBeforeNs ≤ (g.notifyQualityApplied a).qualityAppliedNotBeforeNs ∧
      a ≤ (g.notifyQualityApplied a).qualityAppliedNotBeforeNs := by
  unfold notifyQualityApplied
  split
  · exact ⟨rfl, rfl, le_refl _, by omega⟩
  · exact ⟨rfl, rfl, by simp only; omega, le_refl _⟩

/-- Every evaluation leaves its own time behind. -/
theorem evaluate_past (registry : String → Option AdaptiveSettingRecord) (g : Governor F)
    (policy : AdaptivePolicy F) (sample : AdaptiveSample F) (nowNs : ℕ)
    (locks : List AdaptiveManualLock) :
    Past nowNs (g.evaluate registry policy sample nowNs locks).1 := by
  cases h : g.freezes nowNs with
  | true => exact .inl (by rw [(g.evaluate_frozen registry policy sample nowNs locks h).1])
  | false =>
    exact .inr (g.evaluate_clock registry policy sample nowNs locks h).lastEvaluation.ge

/-- **The step lemma**: a call that is no reset keeps the past, keeps a freeze and keeps the
epoch. -/
theorem call_keeps (registry : String → Option AdaptiveSettingRecord) (g : Governor F)
    (c : GovernorCall F) (hc : c.isReset = false) :
    (∀ t, Past t g → Past t (g.call registry c)) ∧
      (g.frozen = true → (g.call registry c).frozen = true) ∧
      (∀ a, Since a g → Since a (g.call registry c)) := by
  cases c with
  | evaluate policy sample nowNs locks =>
    simp only [call]
    cases h : g.freezes nowNs with
    | true =>
      rw [(g.evaluate_frozen registry policy sample nowNs locks h).1]
      exact ⟨fun t _ => .inl rfl, fun _ => rfl, fun a ha => ha⟩
    | false =>
      have hclock := g.evaluate_clock registry policy sample nowNs locks h
      obtain ⟨hfrozen, hle⟩ := freezes_false h
      refine ⟨fun t ht => ?_, fun hf => ?_, fun a ha => ?_⟩
      · rcases ht with hf | ht
        · rw [hfrozen] at hf; cases hf
        · exact .inr (by rw [hclock.lastEvaluation]; exact ht.trans hle)
      · rw [hfrozen] at hf; cases hf
      · unfold Since; rw [hclock.notBefore]; exact ha
  | notifyQualityApplied a =>
    obtain ⟨hfrozen, hlast, hgrow, _⟩ := g.notify_clock a
    refine ⟨fun t ht => ?_, fun hf => ?_, fun b hb => ?_⟩
    · exact ht.imp (fun hf => by rw [call, hfrozen]; exact hf)
        (fun ht => by rw [call, hlast]; exact ht)
    · rw [call, hfrozen]; exact hf
    · exact le_trans hb hgrow
  | reset => cases hc

/-- The run lemma of `call_keeps`. -/
theorem exec_keeps (registry : String → Option AdaptiveSettingRecord) {I : Governor F → Prop}
    (hstep : ∀ g c, c.isReset = false → I g → I (g.call registry c)) (g : Governor F)
    (calls : List (GovernorCall F)) (hcalls : ∀ c ∈ calls, c.isReset = false) (h : I g) :
    I (exec (call registry) g calls) :=
  exec_invariant_along (P := fun _ c => c.isReset = false) (fun g c hI hc => hstep g c hc hI)
    calls g h (along_of_forall hcalls)

end Governor

/-! ## 5. Time safety -/

/-- **Time safety, between resets.**  On every run: an evaluation at a time before that of an
earlier evaluation with no reset since is frozen, changes nothing but the frozen flag, and from
there every evaluation, until a reset, is frozen and changes nothing at all.  And after
`notify_quality_applied(a)`, until a reset, no evaluation of a sample whose frame is older than
`a` changes anything but the evaluation time and the frozen flag, or reports a pressure. -/
theorem time_safety (registry : String → Option AdaptiveSettingRecord)
    (before between : List (GovernorCall F)) (hbetween : ∀ c ∈ between, c.isReset = false) :
    (∀ policy₁ sample₁ t₁ locks₁ policy₂ sample₂ t₂ locks₂, t₂ < t₁ →
      let g := Governor.run registry
        (before ++ GovernorCall.evaluate policy₁ sample₁ t₁ locks₁ :: between)
      (g.evaluate registry policy₂ sample₂ t₂ locks₂).2.state = .frozen ∧
      (g.evaluate registry policy₂ sample₂ t₂ locks₂).1 = { g with frozen := true } ∧
      ∀ later : List (GovernorCall F), (∀ c ∈ later, c.isReset = false) →
        let g' := exec (Governor.call registry)
          (g.evaluate registry policy₂ sample₂ t₂ locks₂).1 later
        ∀ policy sample t locks,
          (g'.evaluate registry policy sample t locks).2.state = .frozen ∧
          (g'.evaluate registry policy sample t locks).1 = g') ∧
    (∀ a policy sample t locks, sample.timestampNs < a →
      let g := Governor.run registry
        (before ++ GovernorCall.notifyQualityApplied a :: between)
      (∃ last frozen, (g.evaluate registry policy sample t locks).1 =
        { g with lastEvaluationNs := last, frozen := frozen }) ∧
      (g.evaluate registry policy sample t locks).2.pressure = .observing) := by
  constructor
  · intro policy₁ sample₁ t₁ locks₁ policy₂ sample₂ t₂ locks₂ hlt g
    have hpast : Governor.Past t₁ g := by
      show Governor.Past t₁ (exec _ _ _)
      rw [exec_append, exec_cons]
      exact Governor.exec_keeps registry (fun g c hc => (g.call_keeps registry c hc).1 t₁) _
        between hbetween (Governor.evaluate_past registry _ _ _ _ _)
    have hfreezes : g.freezes t₂ = true := by
      unfold Governor.freezes
      rcases hpast with hf | ht
      · rw [hf, Bool.true_or]
      · simp only [Bool.or_eq_true, Bool.and_eq_true, bne_iff_ne, decide_eq_true_eq]
        exact .inr ⟨by omega, by omega⟩
    obtain ⟨hstate, hdec, _, _⟩ :=
      g.evaluate_frozen registry policy₂ sample₂ t₂ locks₂ hfreezes
    refine ⟨hdec, hstate, ?_⟩
    intro later hlater g' policy sample t locks
    have hfrozen : g'.frozen = true :=
      Governor.exec_keeps (I := fun g => g.frozen = true) registry
        (fun g c hc => (g.call_keeps registry c hc).2.1) _ later hlater (by rw [hstate])
    have hfreezes' : g'.freezes t = true := by unfold Governor.freezes; rw [hfrozen, Bool.true_or]
    obtain ⟨hsame, hdec', _, _⟩ := g'.evaluate_frozen registry policy sample t locks hfreezes'
    refine ⟨hdec', hsame.trans ?_⟩
    rw [← hfrozen]
  · intro a policy sample t locks hlt g
    have hsince : Governor.Since a g := by
      show Governor.Since a (exec _ _ _)
      rw [exec_append, exec_cons]
      exact Governor.exec_keeps registry (fun g c hc => (g.call_keeps registry c hc).2.2 a) _
        between hbetween (Governor.notify_clock _ a).2.2.2
    cases h : g.freezes t with
    | true =>
      obtain ⟨hstate, _, _, hp⟩ := g.evaluate_frozen registry policy sample t locks h
      exact ⟨⟨g.lastEvaluationNs, true, hstate⟩, hp⟩
    | false =>
      have hawaits : g.awaitsFreshFrame sample = true := by
        unfold Governor.awaitsFreshFrame
        unfold Governor.Since at hsince
        simp only [Bool.and_eq_true, bne_iff_ne, decide_eq_true_eq]
        exact ⟨by omega, by omega⟩
      obtain ⟨hstate, hp⟩ := g.evaluate_awaits registry policy sample t locks h hawaits
      exact ⟨⟨t, g.frozen, hstate⟩, hp⟩

/-- A policy at 60 FPS with the defaults. -/
def defaultPolicy : AdaptivePolicy ℚ where
  targetFps := 60
  aggressiveness := .balanced
  minimumQuality := 10
  maximumQuality := 100
  qualityChangeBudget := 2
  performanceHeadroom := 8 / 100
  emergencyEnabled := true
  qualityRecoveryEnabled := true
  manualLocksEnabled := true
  shadowMode := true
  freshnessLimitNs := 2000000000

/-- A steady frame at 60 FPS, presented at `timestampNs`. -/
def steadySample (timestampNs : ℕ) : AdaptiveSample ℚ where
  pid := 7
  processStartId := 1
  timestampNs := timestampNs
  fps := some 60
  frameTimeMs := some (1000 / 60)
  p95FrameTimeMs := some (1000 / 60)

theorem time_safety_backwards :
    (1000 : ℕ) < 2000 ∧
    ((Governor.run (fun _ => none)
        [.evaluate defaultPolicy (steadySample 1000) 2000 []]).evaluate (fun _ => none)
      defaultPolicy (steadySample 1000) 1000 []).2.state = .frozen :=
  ⟨by decide, ((time_safety (fun _ => none) [] [] (by simp)).1 defaultPolicy (steadySample 1000)
    2000 [] defaultPolicy (steadySample 1000) 1000 [] (by decide)).1⟩

/-- **A reset forgets the quality epoch**: after `notify_quality_applied(1000)` and a reset, a
frame from time `500` is analysed. -/
theorem older_frame_after_reset :
    (steadySample 500).timestampNs < 1000 ∧
    ((Governor.run (fun _ => none)
        [.notifyQualityApplied 1000, .reset]).evaluate (fun _ => none)
      defaultPolicy (steadySample 500) 500 []).1.historySize = 1 := by
  decide +kernel

end Kf2Optimizer.Optimizer
