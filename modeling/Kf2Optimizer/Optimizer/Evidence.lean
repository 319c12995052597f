/-
# The evidence behind a pressure

A pressure other than observing is reported when the samples have demanded it for a dwell time.
The evidence for it is spread over the candidate, the dwell, the duplicate check and the boundary
bookkeeping, and different events clear different parts of it.

The HISTORY of a run lists its analysed samples, each with the governor it was analysed by and
the pressure it demanded.  The invariant (`Evident`) finds in it, for the candidate pressure, the
samples at the end that demand it, and for the active pressure, the span that led to the switch.
Whatever clears a pressure sets it back to observing (`Cleared`); everything else leaves what the
span is bound to in place (`Carries`).
-/
import Kf2Optimizer.Optimizer.Clock

set_option linter.unusedSectionVars false

namespace Kf2Optimizer.Optimizer

open DoubleOps StepMachine

variable {F : Type} [DoubleOps F]

namespace Governor

/-! ## 1. The evaluations that analyse -/

/-- The governor `analyse` is called on, if the evaluation gets so far. -/
def reaches (g : Governor F) (policy : AdaptivePolicy F) (sample : AdaptiveSample F)
    (nowNs : ℕ) : Option (Governor F) :=
  let quality := (validateAdaptiveSample policy sample nowNs).quality
  if g.freezes nowNs || (g.tick nowNs).awaitsFreshFrame sample || quality == .notAvailable then
    none
  else
    let (bound, targetChanged, isBoundary) := (g.tick nowNs).bind policy sample nowNs
    let settled := { bound with stabilizationUntilNs := 0 }
    if targetChanged ∨ bound.stabilizationUntilNs ≠ 0 ∧ nowNs < bound.stabilizationUntilNs ∨
        quality = .degraded ∧ isBoundary ∨ settled.isDuplicate sample then
      none
    else some settled

/-- What a sample demands of the governor that analyses it. -/
def demandOf (g : Governor F) (policy : AdaptivePolicy F) (sample : AdaptiveSample F)
    (nowNs : ℕ) : FrameDemand :=
  let data := validateAdaptiveSample policy sample nowNs
  let bands : AdaptiveStabilityBands F := adaptiveStabilityBands policy.targetFps
  let seen := { g with lastFrameTimestampNs := sample.timestampNs }
  let (g, frames) := seen.updateFrameAnalysis policy sample data.confidenceFactor
  let resources := (g.resourcePressureEstimator.evaluate (resourceInput policy sample frames)).2
  let attributedMemory :=
    le (ofRat (55 / 100)) resources.primaryConfidence && memoryPressure resources (75 / 100)
  let since :=
    if lowPercentilesNeedCorrection policy sample data.quality bands then
      if g.lowPercentilePressureSinceNs = 0 then nowNs else g.lowPercentilePressureSinceNs
    else 0
  frameDemand policy sample bands frames
    (since != 0 && decide (since ≤ nowNs) && decide (3500000000 ≤ nowNs - since))
    attributedMemory (attributedMemory && memoryPressure resources (90 / 100))

/-- The fields the pressure hysteresis reads and writes. -/
structure SamePressure (g g' : Governor F) : Prop where
  active : g'.activePressure = g.activePressure
  candidate : g'.candidatePressure = g.candidatePressure
  since : g'.candidateSinceNs = g.candidateSinceNs

/-- One step of the pressure hysteresis. -/
structure Pressed (g g' : Governor F) (desired : AdaptivePressure) (dwell nowNs : ℕ) : Prop where
  candidate : g'.candidatePressure = desired
  since : g'.candidateSinceNs = if desired ≠ g.candidatePressure then nowNs else g.candidateSinceNs
  active : g'.activePressure = g.activePressure ∨
    (g'.activePressure = desired ∧ desired ≠ g.activePressure ∧ g'.candidateSinceNs ≤ nowNs ∧
      dwell ≤ nowNs - g'.candidateSinceNs)

theorem Pressed.congr {g g₁ g₂ : Governor F} {desired : AdaptivePressure} {dwell nowNs : ℕ}
    (h : Pressed g g₁ desired dwell nowNs) (hsame : SamePressure g₁ g₂) :
    Pressed g g₂ desired dwell nowNs where
  candidate := hsame.candidate.trans h.candidate
  since := hsame.since.trans h.since
  active := by
    rw [hsame.active, hsame.since]
    exact h.active

theorem pressed_updatePressureHysteresis (g : Governor F) (desired : AdaptivePressure)
    (policy : AdaptivePolicy F) (drop : Bool) (nowNs : ℕ) :
    Pressed g (g.updatePressureHysteresis desired policy drop nowNs) desired
      (g.dwellNs desired policy drop) nowNs := by
  unfold updatePressureHysteresis
  by_cases hc : desired ≠ g.candidatePressure
  · simp only [if_pos hc]
    split
    · rename_i h
      exact ⟨rfl, (if_pos hc).symm, .inr ⟨rfl, h.1, h.2.1, h.2.2⟩⟩
    · exact ⟨rfl, (if_pos hc).symm, .inl rfl⟩
  · simp only [if_neg hc]
    have hsame := (not_ne_iff.mp hc).symm
    split
    · rename_i h
      exact ⟨hsame, (if_neg hc).symm, .inr ⟨rfl, h.1, h.2.1, h.2.2⟩⟩
    · exact ⟨hsame, (if_neg hc).symm, .inl rfl⟩

/-- The step of a governor whose hysteresis has the fields of `g`. -/
theorem Pressed.of_update {g g₀ g₂ : Governor F} {desired : AdaptivePressure}
    {policy : AdaptivePolicy F} {drop : Bool} {nowNs : ℕ}
    (h : SamePressure (g₀.updatePressureHysteresis desired policy drop nowNs) g₂)
    (hsame : SamePressure g g₀) (hchanges : g₀.directionChanges = g.directionChanges) :
    Pressed g g₂ desired (g.dwellNs desired policy drop) nowNs := by
  have hdwell : g.dwellNs desired policy drop = g₀.dwellNs desired policy drop := by
    unfold dwellNs
    rw [hchanges]
  have hpressed := (pressed_updatePressureHysteresis g₀ desired policy drop nowNs).congr h
  rw [hdwell]
  exact ⟨hpressed.candidate, hsame.candidate ▸ hsame.since ▸ hpressed.since,
    hsame.active ▸ hpressed.active⟩

theorem samePressure_updateBottleneckHysteresis (g : Governor F) (decision : AdaptiveDecision F)
    (sample : AdaptiveSample F) (nowNs : ℕ) :
    SamePressure g (g.updateBottleneckHysteresis decision sample nowNs).1 := by
  unfold updateBottleneckHysteresis
  simp only
  split
  · exact ⟨rfl, rfl, rfl⟩
  · split
    · exact ⟨rfl, rfl, rfl⟩
    · split <;> exact ⟨rfl, rfl, rfl⟩

theorem pressure_updateBottleneckHysteresis (g : Governor F) (decision : AdaptiveDecision F)
    (sample : AdaptiveSample F) (nowNs : ℕ) :
    (g.updateBottleneckHysteresis decision sample nowNs).2.pressure = decision.pressure := by
  unfold updateBottleneckHysteresis
  simp only
  split
  · rfl
  · split
    · rfl
    · split <;> rfl

theorem lastFrame_updateHysteresis (g : Governor F) (desired : AdaptivePressure)
    (policy : AdaptivePolicy F) (drop : Bool) (decision : AdaptiveDecision F)
    (sample : AdaptiveSample F) (nowNs : ℕ) :
    ((g.updatePressureHysteresis desired policy drop nowNs).updateBottleneckHysteresis decision
      sample nowNs).1.lastFrameTimestampNs = g.lastFrameTimestampNs := by
  have hpressure : (g.updatePressureHysteresis desired policy drop nowNs).lastFrameTimestampNs =
      g.lastFrameTimestampNs := by
    unfold updatePressureHysteresis
    simp only
    split <;> split <;> rfl
  rw [← hpressure]
  unfold updateBottleneckHysteresis
  simp only
  split
  · rfl
  · split
    · rfl
    · split <;> rfl

end Governor

/-- The choice of a setting leaves the reported pressure alone. -/
theorem pressure_conclude (registry : String → Option AdaptiveSettingRecord)
    (pressure : AdaptivePressure) (policy : AdaptivePolicy F) (d : AdaptiveDecision F)
    (sample : AdaptiveSample F) (locks : List AdaptiveManualLock) :
    (conclude registry pressure policy d sample locks).pressure = d.pressure := by
  have hcorpse : (concludeCorpse pressure d sample).pressure = d.pressure := by
    unfold concludeCorpse
    simp only
    repeat' split
    all_goals rfl
  have hcandidate : (concludeCandidate registry policy d sample locks).pressure = d.pressure := by
    unfold concludeCandidate
    simp only
    repeat' split
    all_goals rfl
  unfold conclude
  split
  · rfl
  · rfl
  · rfl
  all_goals
    split
    · rfl
    · split
      · exact hcorpse
      · exact hcandidate

namespace Governor

/-- **An analysis** is one step of the pressure hysteresis, and reports the result. -/
theorem pressed_analyse (registry : String → Option AdaptiveSettingRecord) (g : Governor F)
    {policy : AdaptivePolicy F} {sample : AdaptiveSample F} {nowNs : ℕ}
    (locks : List AdaptiveManualLock) {decision : AdaptiveDecision F}
    (hdata : decision.data = validateAdaptiveSample policy sample nowNs)
    (hbands : decision.bands = adaptiveStabilityBands policy.targetFps) :
    Pressed g (g.analyse registry policy sample nowNs locks decision).1
        (desiredPressure (g.demandOf policy sample nowNs).desired)
        (g.dwellNs (desiredPressure (g.demandOf policy sample nowNs).desired) policy
          (g.demandOf policy sample nowNs).catastrophicLiveDrop) nowNs ∧
      (g.analyse registry policy sample nowNs locks decision).2.pressure =
        (g.analyse registry policy sample nowNs locks decision).1.activePressure ∧
      (g.analyse registry policy sample nowNs locks decision).1.lastFrameTimestampNs =
        sample.timestampNs := by
  unfold analyse demandOf
  simp only [hdata, hbands]
  refine ⟨?_, ?_, ?_⟩
  · exact .of_update (samePressure_updateBottleneckHysteresis _ _ _ _) ⟨rfl, rfl, rfl⟩ rfl
  · rw [pressure_conclude, pressure_updateBottleneckHysteresis]
    exact (samePressure_updateBottleneckHysteresis _ _ _ _).active.symm
  · rw [lastFrame_updateHysteresis]
    rfl

/-! ## 2. What an evaluation carries over -/

/-- What clears a pressure clears its candidate. -/
structure Cleared (g : Governor F) : Prop where
  active : g.activePressure = .observing
  candidate : g.candidatePressure = .observing

/-- The governor is bound to the sample under the target of the policy. -/
structure Binds (g : Governor F) (policy : AdaptivePolicy F) (sample : AdaptiveSample F) : Prop where
  pid : g.identityPid = sample.pid
  startId : g.identityStartId = sample.processStartId
  session : g.sessionGeneration = sample.sessionGeneration
  map : g.mapGeneration = sample.mapGeneration
  generation : g.frameGeneration = sample.frameGeneration
  stream : g.frameStreamId = sample.frameStreamId
  target : g.targetFps = policy.targetFps

/-- Nothing is cleared: the pressure, the last frame and what the governor is bound to stay, as
far as it was bound. -/
structure Carries (g g' : Governor F) : Prop extends SamePressure g g' where
  lastFrame : g'.lastFrameTimestampNs = g.lastFrameTimestampNs
  notBefore : g'.qualityAppliedNotBeforeNs = g.qualityAppliedNotBeforeNs
  pid : g'.identityPid = g.identityPid
  startId : g'.identityStartId = g.identityStartId
  generation : g'.frameGeneration = g.frameGeneration
  stream : g'.frameStreamId = g.frameStreamId
  target : g.targetFps ≠ 0 → g'.targetFps = g.targetFps
  session : g.sessionGeneration ≠ 0 → g'.sessionGeneration = g.sessionGeneration
  map : g.mapGeneration ≠ 0 → g'.mapGeneration = g.mapGeneration

theorem Carries.refl (g : Governor F) : Carries g g :=
  ⟨⟨rfl, rfl, rfl⟩, rfl, rfl, rfl, rfl, rfl, rfl, fun _ => rfl, fun _ => rfl, fun _ => rfl⟩

theorem retarget_cases (g : Governor F) {policy : AdaptivePolicy F}
    (hvalid : validTargetFps policy.targetFps = true) :
    (g.retarget policy).1.targetFps = policy.targetFps ∧
      (g.targetFps ≠ 0 → (g.retarget policy).2 = false → g.targetFps = policy.targetFps) ∧
      ∃ generation, (g.retarget policy).1 =
        { g with targetFps := policy.targetFps, settingsGeneration := generation } := by
  unfold retarget
  rw [if_pos hvalid]
  by_cases hzero : g.targetFps = 0
  · rw [if_pos hzero]
    exact ⟨rfl, fun hne => absurd hzero hne, 1, rfl⟩
  · rw [if_neg hzero]
    by_cases hne : g.targetFps ≠ policy.targetFps
    · rw [if_pos hne]
      exact ⟨rfl, fun _ h => absurd h (by simp), _, rfl⟩
    · rw [if_neg hne]
      have heq := not_ne_iff.mp hne
      exact ⟨heq, fun _ _ => heq, g.settingsGeneration, by rw [← heq]⟩

/-- **Binding** clears at a boundary and carries over otherwise. -/
theorem bind_cases (g : Governor F) {policy : AdaptivePolicy F} {sample : AdaptiveSample F}
    (nowNs : ℕ) (hvalid : validTargetFps policy.targetFps = true) (hpid : sample.pid ≠ 0) :
    Binds (g.bind policy sample nowNs).1 policy sample ∧
      (Carries g (g.bind policy sample nowNs).1 ∨ Cleared (g.bind policy sample nowNs).1) := by
  obtain ⟨_, htarget, generation, hretarget⟩ := g.retarget_cases hvalid
  unfold bind
  simp only
  rw [hretarget]
  split
  · exact ⟨⟨rfl, rfl, rfl, rfl, rfl, rfl, rfl⟩, .inr ⟨rfl, rfl⟩⟩
  · rename_i hboundary
    refine ⟨⟨rfl, rfl, rfl, rfl, rfl, rfl, rfl⟩, .inl ?_⟩
    simp only [boundary, frameTransition, Bool.or_eq_true, Bool.and_eq_true, bne_iff_ne, ne_eq,
      not_or, not_and, not_not, Bool.not_eq_true] at hboundary
    obtain ⟨⟨⟨⟨⟨⟨hchanged, hframe⟩, _⟩, hsamePid⟩, hstart⟩, hsession⟩, hmap⟩ := hboundary
    have hbound : ¬ g.identityPid = 0 := fun h => hpid (hsamePid.trans h)
    obtain ⟨hgeneration, hstream⟩ := hframe hbound
    exact {
      active := rfl
      candidate := rfl
      since := rfl
      lastFrame := rfl
      notBefore := rfl
      pid := hsamePid
      startId := hstart
      generation := hgeneration
      stream := hstream
      target := fun hne => (htarget hne hchanged).symm
      session := hsession
      map := hmap }

/-- What is known of a governor that is about to analyse a sample. -/
structure Reached (g g₀ : Governor F) (policy : AdaptivePolicy F) (sample : AdaptiveSample F) :
    Prop extends Binds g₀ policy sample where
  kept : Carries g g₀ ∨ Cleared g₀
  notBefore : g₀.qualityAppliedNotBeforeNs = g.qualityAppliedNotBeforeNs
  notEarlier : g.qualityAppliedNotBeforeNs ≤ sample.timestampNs
  newer : g₀.lastFrameTimestampNs < sample.timestampNs
  pid_ne_zero : sample.pid ≠ 0
  target_ne_zero : policy.targetFps ≠ 0

theorem Carries.tick {g g' : Governor F} (nowNs : ℕ) (h : Carries (g.tick nowNs) g') :
    Carries g g' :=
  ⟨⟨h.active, h.candidate, h.since⟩, h.lastFrame, h.notBefore, h.pid, h.startId, h.generation,
    h.stream, h.target, h.session, h.map⟩

theorem kept_settled {g b : Governor F} (h : Carries g b ∨ Cleared b) :
    Carries g { b with stabilizationUntilNs := 0 } ∨
      Cleared { b with stabilizationUntilNs := 0 } := by
  refine h.imp (fun hc => ?_) (fun hc => ⟨hc.active, hc.candidate⟩)
  exact ⟨⟨hc.active, hc.candidate, hc.since⟩, hc.lastFrame, hc.notBefore, hc.pid, hc.startId,
    hc.generation, hc.stream, hc.target, hc.session, hc.map⟩

theorem of_ite_eq_none {α : Type} {c : Prop} [Decidable c] {a : α}
    (h : (if c then none else some a) = none) : c := by
  by_contra hc
  rw [if_neg hc] at h
  cases h

theorem data_baseDecision (g : Governor F) (policy : AdaptivePolicy F) (sample : AdaptiveSample F)
    (nowNs : ℕ) :
    (g.baseDecision policy sample nowNs).data = validateAdaptiveSample policy sample nowNs := rfl

/-- The checks in front of the boundary. -/
theorem gates_of_available {g : Governor F} {policy : AdaptivePolicy F}
    {sample : AdaptiveSample F} {nowNs : ℕ} {stops : Bool}
    (h : (stops || (g.tick nowNs).awaitsFreshFrame sample ||
      (validateAdaptiveSample policy sample nowNs).quality == .notAvailable) = false) :
    stops = false ∧ (g.tick nowNs).awaitsFreshFrame sample = false ∧
      (validateAdaptiveSample policy sample nowNs).quality ≠ .notAvailable := by
  simp only [Bool.or_eq_false_iff, beq_eq_false_iff_ne] at h
  exact ⟨h.1.1, h.1.2, h.2⟩

/-- **An evaluation that analyses.** -/
theorem evaluate_reached (registry : String → Option AdaptiveSettingRecord) {g g₀ : Governor F}
    {policy : AdaptivePolicy F} {sample : AdaptiveSample F} {nowNs : ℕ}
    (locks : List AdaptiveManualLock) (h : g.reaches policy sample nowNs = some g₀) :
    Reached g g₀ policy sample ∧
      ∃ decision : AdaptiveDecision F, decision.data = validateAdaptiveSample policy sample nowNs ∧
        decision.bands = adaptiveStabilityBands policy.targetFps ∧
        g.evaluate registry policy sample nowNs locks =
          g₀.analyse registry policy sample nowNs locks decision := by
  unfold reaches at h
  simp only at h
  split at h
  · cases h
  · rename_i hgates
    obtain ⟨hfreezes, hawaits, hquality⟩ := gates_of_available (Bool.eq_false_iff.mpr hgates)
    obtain ⟨hvalid, hsource⟩ := validate_available hquality
    have hpid : sample.pid ≠ 0 := by
      simp only [invalidSource, Bool.or_eq_false_iff, beq_eq_false_iff_ne] at hsource
      exact hsource.1.1.1
    have htarget : policy.targetFps ≠ 0 := by
      intro hzero
      rw [hzero] at hvalid
      cases hvalid
    obtain ⟨hbinds, hkept⟩ := (g.tick nowNs).bind_cases nowNs hvalid hpid
    have hclock := (g.tick nowNs).sameClock_bind policy sample nowNs
    split at h
    · cases h
    · rename_i hheld
      obtain rfl := Option.some.inj h
      obtain ⟨hchanged, hheld⟩ := not_or.mp hheld
      obtain ⟨hstable, hheld⟩ := not_or.mp hheld
      obtain ⟨hboundary, hduplicate⟩ := not_or.mp hheld
      refine ⟨⟨⟨hbinds.pid, hbinds.startId, hbinds.session, hbinds.map, hbinds.generation,
        hbinds.stream, hbinds.target⟩, ?_, hclock.notBefore, ?_, ?_, hpid, htarget⟩, ?_⟩
      · exact (kept_settled hkept).imp (Carries.tick nowNs) id
      · simp only [awaitsFreshFrame, tick, Bool.and_eq_false_iff, bne_eq_false_iff_eq] at hawaits
        rcases hawaits with hzero | hle
        · omega
        · exact Nat.le_of_not_lt (of_decide_eq_false hle)
      · simp only [isDuplicate, Bool.or_eq_true, decide_eq_true_eq, not_or, Nat.not_le]
          at hduplicate
        exact hduplicate.2
      · rw [evaluate_of_monotone registry policy sample locks hfreezes]
        unfold evaluateTicked
        rw [if_neg (Bool.eq_false_iff.mp hawaits), data_baseDecision, if_neg hquality]
        unfold evaluateAvailable
        simp only [data_baseDecision]
        rw [if_neg hchanged, if_neg hstable]
        split
        · rename_i hheld
          exact absurd hheld hboundary
        · exact ⟨_, rfl, rfl, rfl⟩

/-- **An evaluation that does not analyse** reports no pressure, holds or blocks, and clears or carries over. -/
theorem evaluate_unreached (registry : String → Option AdaptiveSettingRecord) {g : Governor F}
    {policy : AdaptivePolicy F} {sample : AdaptiveSample F} {nowNs : ℕ}
    (locks : List AdaptiveManualLock) (h : g.reaches policy sample nowNs = none) :
    (g.evaluate registry policy sample nowNs locks).2.pressure = .observing ∧
      ((g.evaluate registry policy sample nowNs locks).2.disposition = .hold ∨
        (g.evaluate registry policy sample nowNs locks).2.disposition = .blocked) ∧
      (Carries g (g.evaluate registry policy sample nowNs locks).1 ∨
        Cleared (g.evaluate registry policy sample nowNs locks).1) := by
  cases hfreezes : g.freezes nowNs with
  | true =>
    obtain ⟨hstate, _, _, hpressure⟩ := g.evaluate_frozen registry policy sample nowNs locks hfreezes
    have hblocked : (g.evaluate registry policy sample nowNs locks).2.disposition = .blocked := by
      unfold evaluate
      simp [hfreezes]
    rw [hstate]
    exact ⟨hpressure, .inr hblocked, .inl ⟨⟨rfl, rfl, rfl⟩, rfl, rfl, rfl, rfl, rfl, rfl, fun _ => rfl,
      fun _ => rfl, fun _ => rfl⟩⟩
  | false =>
    have hkeep : ∀ {g' : Governor F}, Carries (g.tick nowNs) g' ∨ Cleared g' →
        Carries g g' ∨ Cleared g' := fun hcases => hcases.imp (Carries.tick nowNs) id
    rw [evaluate_of_monotone registry policy sample locks hfreezes]
    unfold evaluateTicked
    by_cases hawaits : (g.tick nowNs).awaitsFreshFrame sample
    · rw [if_pos hawaits]
      exact ⟨rfl, .inl rfl, hkeep (.inl (.refl _))⟩
    · rw [if_neg hawaits]
      rw [data_baseDecision]
      by_cases hquality : (validateAdaptiveSample policy sample nowNs).quality = .notAvailable
      · rw [if_pos hquality]
        exact ⟨rfl, .inl rfl, hkeep (.inl ⟨⟨rfl, rfl, rfl⟩, rfl, rfl, rfl, rfl, rfl, rfl, fun _ => rfl,
          fun _ => rfl, fun _ => rfl⟩)⟩
      · rw [if_neg hquality]
        obtain ⟨hvalid, hsource⟩ := validate_available hquality
        have hpid : sample.pid ≠ 0 := by
          simp only [invalidSource, Bool.or_eq_false_iff, beq_eq_false_iff_ne] at hsource
          exact hsource.1.1.1
        obtain ⟨_, hkept⟩ := (g.tick nowNs).bind_cases nowNs hvalid hpid
        unfold reaches at h
        simp only at h
        rw [if_neg (by simp [hfreezes, hawaits, hquality])] at h
        have hheld := of_ite_eq_none h
        unfold evaluateAvailable
        simp only
        split
        · exact ⟨rfl, .inl rfl, hkeep hkept⟩
        · rename_i hchanged
          split
          · exact ⟨rfl, .inl rfl, hkeep hkept⟩
          · rename_i hstable
            split
            · exact ⟨rfl, .inl rfl, hkeep (kept_settled hkept)⟩
            · rename_i hboundary
              split
              · exact ⟨rfl, .inl rfl, hkeep (kept_settled hkept)⟩
              · rename_i hduplicate
                rcases hheld with hc | hc | hc | hc
                exacts [absurd hc hchanged, absurd hc hstable, absurd hc hboundary,
                  absurd hc hduplicate]

end Governor

/-! ## 3. The history -/

/-- An analysed sample, with the governor before and after the analysis. -/
structure AnalysedSample (F : Type) where
  policy : AdaptivePolicy F
  sample : AdaptiveSample F
  nowNs : ℕ
  before : Governor F
  after : Governor F

namespace AnalysedSample

/-- The pressure the sample demanded. -/
def demanded (a : AnalysedSample F) : AdaptivePressure :=
  desiredPressure (a.before.demandOf a.policy a.sample a.nowNs).desired

/-- The dwell time of that pressure, under the policy. -/
def dwellNs (a : AnalysedSample F) : ℕ :=
  a.before.dwellNs a.demanded a.policy
    (a.before.demandOf a.policy a.sample a.nowNs).catastrophicLiveDrop

/-- The sample comes from what the governor is bound to, under its target, and not from before
the last quality change. -/
structure BoundTo (a : AnalysedSample F) (g : Governor F) : Prop where
  pid : a.sample.pid = g.identityPid
  startId : a.sample.processStartId = g.identityStartId
  generation : a.sample.frameGeneration = g.frameGeneration
  stream : a.sample.frameStreamId = g.frameStreamId
  target : a.policy.targetFps = g.targetFps
  session : a.sample.sessionGeneration = 0 ∨ a.sample.sessionGeneration = g.sessionGeneration
  map : a.sample.mapGeneration = 0 ∨ a.sample.mapGeneration = g.mapGeneration
  notBefore : g.qualityAppliedNotBeforeNs ≤ a.sample.timestampNs
  target_ne_zero : a.policy.targetFps ≠ 0

theorem BoundTo.carry {a : AnalysedSample F} {g g' : Governor F} (h : a.BoundTo g)
    (hcarries : g.Carries g') : a.BoundTo g' where
  pid := h.pid.trans hcarries.pid.symm
  startId := h.startId.trans hcarries.startId.symm
  generation := h.generation.trans hcarries.generation.symm
  stream := h.stream.trans hcarries.stream.symm
  target := h.target.trans (hcarries.target (h.target ▸ h.target_ne_zero)).symm
  session := by
    rcases h.session with hzero | hsame
    · exact .inl hzero
    · by_cases hg : g.sessionGeneration = 0
      · exact .inl (hsame.trans hg)
      · exact .inr (hsame.trans (hcarries.session hg).symm)
  map := by
    rcases h.map with hzero | hsame
    · exact .inl hzero
    · by_cases hg : g.mapGeneration = 0
      · exact .inl (hsame.trans hg)
      · exact .inr (hsame.trans (hcarries.map hg).symm)
  notBefore := hcarries.notBefore ▸ h.notBefore
  target_ne_zero := h.target_ne_zero

/-- The fields `BoundTo` reads are bookkeeping. -/
theorem BoundTo.of_bookkeeping {a : AnalysedSample F} {g g' : Governor F} (h : a.BoundTo g)
    (hsame : g'.bookkeeping = g.bookkeeping) : a.BoundTo g' := by
  have hfield : ∀ {α : Type} (f : Governor.Bookkeeping → α), f g.bookkeeping = f g'.bookkeeping :=
    fun f => congrArg f hsame.symm
  exact {
    pid := h.pid.trans (hfield (·.identityPid))
    startId := h.startId.trans (hfield (·.identityStartId))
    generation := h.generation.trans (hfield (·.frameGeneration))
    stream := h.stream.trans (hfield (·.frameStreamId))
    target := h.target.trans (hfield (·.targetFps))
    session := h.session.imp id fun hs => hs.trans (hfield (·.sessionGeneration))
    map := h.map.imp id fun hm => hm.trans (hfield (·.mapGeneration))
    notBefore := (hfield (·.qualityAppliedNotBeforeNs)).ge.trans h.notBefore
    target_ne_zero := h.target_ne_zero }

end AnalysedSample

namespace Governor

/-- The sample that a call analyses. -/
def analysed (registry : String → Option AdaptiveSettingRecord) (g : Governor F) :
    GovernorCall F → List (AnalysedSample F)
  | .evaluate policy sample nowNs locks =>
    match g.reaches policy sample nowNs with
    | none => []
    | some g₀ => [⟨policy, sample, nowNs, g₀, (g.evaluate registry policy sample nowNs locks).1⟩]
  | .notifyQualityApplied _ => []
  | .reset => []

/-- The samples that a run analyses, in order. -/
def analysedSamples (registry : String → Option AdaptiveSettingRecord) (calls : List (GovernorCall F)) :
    List (AnalysedSample F) :=
  emitted (call registry) (analysed registry) init calls

end Governor

/-! ## 4. The invariant -/

/-- Samples that demand one pressure, in the order of their frames. -/
structure Demanding (p : AdaptivePressure) (span : List (AnalysedSample F)) : Prop where
  demanded : ∀ a ∈ span, a.demanded = p
  increasing : span.Pairwise fun a b => a.sample.timestampNs < b.sample.timestampNs

/-- The samples at the end of a history that the candidate pressure rests on. -/
structure CandidateSpan (g : Governor F) (span : List (AnalysedSample F)) : Prop
    extends Demanding g.candidatePressure span where
  since : ∃ first, span.head? = some first ∧ first.nowNs = g.candidateSinceNs
  seen : ∀ a ∈ span, a.sample.timestampNs ≤ g.lastFrameTimestampNs
  bound : ∀ a ∈ span, a.BoundTo g

/-- The switch to a pressure at the end of a span that had demanded it for the dwell time. -/
structure Switched (p : AdaptivePressure) (span later : List (AnalysedSample F)) : Prop
    extends Demanding p span where
  dwelt : ∃ first last, span.head? = some first ∧ span.getLast? = some last ∧
    first.nowNs ≤ last.nowNs ∧ last.dwellNs ≤ last.nowNs - first.nowNs ∧
    last.before.activePressure ≠ p ∧ last.after.activePressure = p
  held : ∀ a ∈ later, a.after.activePressure = p

/-- The history shows what the candidate and the active pressure rest on. -/
structure Evident (samples : List (AnalysedSample F)) (g : Governor F) : Prop where
  candidate : g.candidatePressure ≠ .observing →
    ∃ earlier span, samples = earlier ++ span ∧ CandidateSpan g span
  active : g.activePressure ≠ .observing →
    ∃ earlier span later, samples = earlier ++ span ++ later ∧
      Switched g.activePressure span later ∧ ∀ a ∈ span, a.BoundTo g

theorem Evident.of_cleared {samples : List (AnalysedSample F)} {g : Governor F}
    (h : g.Cleared) : Evident samples g :=
  ⟨fun hc => absurd h.candidate hc, fun ha => absurd h.active ha⟩

theorem CandidateSpan.carry {g g' : Governor F} {span : List (AnalysedSample F)}
    (h : CandidateSpan g span) (hcarries : g.Carries g') : CandidateSpan g' span where
  demanded := hcarries.candidate ▸ h.demanded
  increasing := h.increasing
  since := hcarries.since ▸ h.since
  seen := hcarries.lastFrame ▸ h.seen
  bound a ha := (h.bound a ha).carry hcarries

theorem Evident.carry {samples : List (AnalysedSample F)} {g g' : Governor F}
    (h : Evident samples g) (hcarries : g.Carries g') : Evident samples g' where
  candidate hne := by
    obtain ⟨earlier, span, hsplit, hspan⟩ := h.candidate (hcarries.candidate ▸ hne)
    exact ⟨earlier, span, hsplit, hspan.carry hcarries⟩
  active hne := by
    obtain ⟨earlier, span, later, hsplit, hswitched, hbound⟩ := h.active (hcarries.active ▸ hne)
    exact ⟨earlier, span, later, hsplit, hcarries.active ▸ hswitched,
      fun a ha => (hbound a ha).carry hcarries⟩

theorem desiredPressure_ne_observing (level : FrameSignalLevel) :
    desiredPressure level ≠ .observing := by cases level <;> decide

/-- An analysed sample is bound to the governor that analysed it. -/
theorem boundTo_of_reached {g g₀ g₁ : Governor F} {policy : AdaptivePolicy F}
    {sample : AdaptiveSample F} (h : g.Reached g₀ policy sample)
    (hbook : g₁.bookkeeping = g₀.bookkeeping) (nowNs : ℕ) :
    (⟨policy, sample, nowNs, g₀, g₁⟩ : AnalysedSample F).BoundTo g₁ := by
  have hbound : (⟨policy, sample, nowNs, g₀, g₁⟩ : AnalysedSample F).BoundTo g₀ :=
    { pid := h.pid.symm
      startId := h.startId.symm
      generation := h.generation.symm
      stream := h.stream.symm
      target := h.target.symm
      session := .inr h.session.symm
      map := .inr h.map.symm
      notBefore := h.notBefore ▸ h.notEarlier
      target_ne_zero := h.target_ne_zero }
  exact hbound.of_bookkeeping hbook

/-- The candidate of a governor after an analysis: the sample joins those that demanded the same,
or starts a span of its own. -/
theorem candidate_analysed {samples : List (AnalysedSample F)} {g g₀ g₁ : Governor F}
    {a : AnalysedSample F} (h : Evident samples g) (hreached : g.Reached g₀ a.policy a.sample)
    (hpressed : g₀.Pressed g₁ a.demanded a.dwellNs a.nowNs)
    (hlast : g₁.lastFrameTimestampNs = a.sample.timestampNs)
    (hbook : g₁.bookkeeping = g₀.bookkeeping) (hbound : a.BoundTo g₁) :
    ∃ earlier span, samples ++ [a] = earlier ++ (span ++ [a]) ∧
      CandidateSpan g₁ (span ++ [a]) := by
  by_cases hnew : a.demanded ≠ g₀.candidatePressure
  · have hsince : g₁.candidateSinceNs = a.nowNs := hpressed.since.trans (if_pos hnew)
    refine ⟨samples, [], rfl, ⟨⟨?_, by simp⟩, ⟨a, rfl, hsince.symm⟩, ?_, ?_⟩⟩
    · intro b hb
      rw [List.mem_singleton.mp hb]
      exact hpressed.candidate.symm
    · intro b hb
      rw [List.mem_singleton.mp hb]
      exact hlast.ge
    · intro b hb
      rw [List.mem_singleton.mp hb]
      exact hbound
  · have hsame : g₀.candidatePressure = a.demanded := (not_ne_iff.mp hnew).symm
    have hcarries : g.Carries g₀ := by
      refine hreached.kept.resolve_right fun hcleared => ?_
      exact desiredPressure_ne_observing _ (hsame.symm.trans hcleared.candidate)
    obtain ⟨earlier, span, hsplit, hspan⟩ :=
      (h.carry hcarries).candidate (hsame ▸ desiredPressure_ne_observing _)
    have hcandidate : g₁.candidatePressure = g₀.candidatePressure :=
      hpressed.candidate.trans hsame.symm
    refine ⟨earlier, span, by rw [hsplit, List.append_assoc], ⟨⟨?_, ?_⟩, ?_, ?_, ?_⟩⟩
    · intro b hb
      rcases List.mem_append.mp hb with hb | hb
      · exact (hspan.demanded b hb).trans hcandidate.symm
      · rw [List.mem_singleton.mp hb]
        exact hpressed.candidate.symm
    · refine List.pairwise_append.mpr ⟨hspan.increasing, by simp, ?_⟩
      intro b hb c hc
      rw [List.mem_singleton.mp hc]
      exact (hspan.seen b hb).trans_lt hreached.newer
    · obtain ⟨first, hfirst, hnow⟩ := hspan.since
      refine ⟨first, ?_, hnow.trans ?_⟩
      · rw [List.head?_append, hfirst]
        rfl
      · exact (hpressed.since.trans (if_neg hnew)).symm
    · intro b hb
      rw [hlast]
      rcases List.mem_append.mp hb with hb | hb
      · exact ((hspan.seen b hb).trans_lt hreached.newer).le
      · rw [List.mem_singleton.mp hb]
    · intro b hb
      rcases List.mem_append.mp hb with hb | hb
      · exact (hspan.bound b hb).of_bookkeeping hbook
      · rw [List.mem_singleton.mp hb]
        exact hbound

/-- **An analysis** keeps the evidence, and a switch has it. -/
theorem Evident.analysed {samples : List (AnalysedSample F)} {g g₀ g₁ : Governor F}
    {a : AnalysedSample F} (h : Evident samples g) (hreached : g.Reached g₀ a.policy a.sample)
    (hpressed : g₀.Pressed g₁ a.demanded a.dwellNs a.nowNs)
    (hlast : g₁.lastFrameTimestampNs = a.sample.timestampNs)
    (hbook : g₁.bookkeeping = g₀.bookkeeping) (hbefore : a.before = g₀) (hafter : a.after = g₁)
    (hbound : a.BoundTo g₁) : Evident (samples ++ [a]) g₁ := by
  obtain ⟨earlier, span, hsplit, hspan⟩ :=
    candidate_analysed h hreached hpressed hlast hbook hbound
  refine ⟨fun _ => ⟨earlier, span ++ [a], hsplit, hspan⟩, fun hne => ?_⟩
  rcases hpressed.active with hsame | ⟨hswitch, hother, hle, hdwell⟩
  · have hcarries : g.Carries g₀ := by
      refine hreached.kept.resolve_right fun hcleared => ?_
      exact hne (hsame.trans hcleared.active)
    obtain ⟨earlier, span, later, hsplit, hswitched, hbounds⟩ :=
      (h.carry hcarries).active (hsame ▸ hne)
    refine ⟨earlier, span, later ++ [a], by rw [hsplit]; simp, ?_,
      fun b hb => (hbounds b hb).of_bookkeeping hbook⟩
    rw [hsame]
    refine ⟨hswitched.toDemanding, hswitched.dwelt, fun b hb => ?_⟩
    rcases List.mem_append.mp hb with hb | hb
    · exact hswitched.held b hb
    · rw [List.mem_singleton.mp hb, hafter]
      exact hsame
  · obtain ⟨first, hfirst, hnow⟩ := hspan.since
    refine ⟨earlier, span ++ [a], [], by rw [hsplit, List.append_nil], ?_, hspan.bound⟩
    refine ⟨⟨fun b hb => (hspan.demanded b hb).trans ?_, hspan.increasing⟩,
      ⟨first, a, hfirst, List.getLast?_concat, ?_, ?_, ?_, ?_⟩, by simp⟩
    · exact hpressed.candidate.trans hswitch.symm
    · exact hnow ▸ hle
    · exact hnow ▸ hdwell
    · rw [hbefore, hswitch]
      exact hother.symm
    · rw [hafter]

/-- **Every run** has the evidence. -/
theorem evident_run (registry : String → Option AdaptiveSettingRecord)
    (calls : List (GovernorCall F)) :
    Evident (Governor.analysedSamples registry calls) (Governor.run registry calls) := by
  induction calls using List.reverseRecOn with
  | nil => exact .of_cleared ⟨rfl, rfl⟩
  | append_singleton calls c ih =>
    have hrun : Governor.run registry (calls ++ [c]) = (Governor.run registry calls).call registry c :=
      exec_snoc _ _ _ _
    have hsamples : Governor.analysedSamples registry (calls ++ [c]) =
        Governor.analysedSamples registry calls ++ (Governor.run registry calls).analysed registry c :=
      emitted_snoc _ _ _ _ _
    rw [hrun, hsamples]
    cases c with
    | notifyQualityApplied appliedNs =>
      rw [Governor.analysed, List.append_nil, Governor.call]
      unfold Governor.notifyQualityApplied
      split
      · exact ih
      · exact .of_cleared ⟨rfl, rfl⟩
    | reset =>
      rw [Governor.analysed, List.append_nil]
      exact .of_cleared ⟨rfl, rfl⟩
    | evaluate policy sample nowNs locks =>
      rw [Governor.call, Governor.analysed]
      cases hreaches : (Governor.run registry calls).reaches policy sample nowNs with
      | none =>
        simp only [List.append_nil]
        obtain ⟨-, -, hcarries | hcleared⟩ :=
          Governor.evaluate_unreached registry locks hreaches
        · exact ih.carry hcarries
        · exact .of_cleared hcleared
      | some g₀ =>
        obtain ⟨hreached, decision, hdata, hbands, heq⟩ :=
          Governor.evaluate_reached registry locks hreaches
        obtain ⟨hpressed, _, hlast⟩ := g₀.pressed_analyse registry locks hdata hbands
        have hbook := g₀.bookkeeping_analyse registry policy sample nowNs locks decision
        simp only [heq]
        exact ih.analysed hreached hpressed hlast hbook rfl rfl
          (boundTo_of_reached hreached hbook nowNs)

/-! ## 5. Pressure needs current evidence -/

/-- The sample was of the process, frames, session, map and target of the reported decision. -/
structure SameSource (a : AnalysedSample F) (policy : AdaptivePolicy F)
    (sample : AdaptiveSample F) : Prop where
  pid : a.sample.pid = sample.pid
  startId : a.sample.processStartId = sample.processStartId
  generation : a.sample.frameGeneration = sample.frameGeneration
  stream : a.sample.frameStreamId = sample.frameStreamId
  target : a.policy.targetFps = policy.targetFps
  session : a.sample.sessionGeneration = 0 ∨
    a.sample.sessionGeneration = sample.sessionGeneration
  map : a.sample.mapGeneration = 0 ∨ a.sample.mapGeneration = sample.mapGeneration

theorem sameSource_of_boundTo {a : AnalysedSample F} {g g₀ : Governor F}
    {policy : AdaptivePolicy F} {sample : AdaptiveSample F} (h : a.BoundTo g)
    (hbook : g.bookkeeping = g₀.bookkeeping) (hbinds : g₀.Binds policy sample) :
    SameSource a policy sample := by
  have hbound := h.of_bookkeeping hbook.symm
  exact {
    pid := hbound.pid.trans hbinds.pid
    startId := hbound.startId.trans hbinds.startId
    generation := hbound.generation.trans hbinds.generation
    stream := hbound.stream.trans hbinds.stream
    target := hbound.target.trans hbinds.target
    session := hbound.session.imp id fun hs => hs.trans hbinds.session
    map := hbound.map.imp id fun hm => hm.trans hbinds.map }

/-- **Pressure needs current evidence.**  A decision that reports a warning, an intervention or
an emergency follows a switch to that pressure at the end of a span of analysed samples, with no
other analysed sample between them, that all demanded it for at least its dwell time, in the order
of their frames and all of the decision's own source; and none of them is older than a quality
application notified since the last reset. -/
theorem pressure_evidence (registry : String → Option AdaptiveSettingRecord)
    (calls : List (GovernorCall F)) (policy : AdaptivePolicy F) (sample : AdaptiveSample F)
    (nowNs : ℕ) (locks : List AdaptiveManualLock) (p : AdaptivePressure)
    (hp : p = .warning ∨ p = .intervention ∨ p = .emergency)
    (h : ((Governor.run registry calls).evaluate registry policy sample nowNs locks).2.pressure =
      p) :
    ∃ earlier span later,
      Governor.analysedSamples registry (calls ++ [.evaluate policy sample nowNs locks]) =
        earlier ++ span ++ later ∧
      Switched p span later ∧ (∀ a ∈ span, SameSource a policy sample) ∧
      ∀ before appliedNs since, calls = before ++ .notifyQualityApplied appliedNs :: since →
        (∀ c ∈ since, c.isReset = false) → ∀ a ∈ span, appliedNs ≤ a.sample.timestampNs := by
  have hne : p ≠ .observing := by
    rintro rfl
    rcases hp with hp | hp | hp <;> cases hp
  cases hreaches : (Governor.run registry calls).reaches policy sample nowNs with
  | none =>
    obtain ⟨hnone, -, -⟩ := Governor.evaluate_unreached registry locks hreaches
    exact absurd (h.symm.trans hnone) hne
  | some g₀ =>
    obtain ⟨hreached, decision, hdata, hbands, heq⟩ :=
      Governor.evaluate_reached registry locks hreaches
    obtain ⟨_, hreport, _⟩ := g₀.pressed_analyse registry locks hdata hbands
    have hbook := g₀.bookkeeping_analyse registry policy sample nowNs locks decision
    have hrun : Governor.run registry (calls ++ [.evaluate policy sample nowNs locks]) =
        (g₀.analyse registry policy sample nowNs locks decision).1 := by
      rw [← heq]
      exact exec_snoc _ _ _ _
    have hactive : (g₀.analyse registry policy sample nowNs locks decision).1.activePressure = p := by
      rw [← hreport, ← heq, h]
    have hevident := evident_run registry (calls ++ [.evaluate policy sample nowNs locks])
    rw [hrun] at hevident
    obtain ⟨earlier, span, later, hsplit, hswitched, hbound⟩ :=
      hevident.active (hactive ▸ hne)
    refine ⟨earlier, span, later, hsplit, hactive ▸ hswitched,
      fun a ha => sameSource_of_boundTo (hbound a ha) hbook hreached.toBinds, ?_⟩
    intro before appliedNs since hcalls hsince a ha
    have hepoch : Governor.Since appliedNs
        (Governor.run registry (calls ++ [.evaluate policy sample nowNs locks])) := by
      have hnoreset : ∀ c ∈ since ++ [GovernorCall.evaluate policy sample nowNs locks],
          c.isReset = false := by
        intro c hc
        rcases List.mem_append.mp hc with hc | hc
        · exact hsince c hc
        · rw [List.mem_singleton.mp hc]
          rfl
      rw [hcalls, List.append_assoc, List.cons_append]
      show Governor.Since appliedNs (exec _ _ _)
      rw [exec_append, exec_cons]
      exact Governor.exec_keeps registry (fun g c hc => (g.call_keeps registry c hc).2.2 appliedNs)
        _ _ hnoreset (Governor.notify_clock _ appliedNs).2.2.2
    rw [hrun] at hepoch
    exact le_trans hepoch (hbound a ha).notBefore

/-- A frame at 40 FPS, presented and evaluated at `timestampNs`. -/
def slowFrame (timestampNs : ℕ) : AdaptiveSample ℚ where
  pid := 7
  processStartId := 1
  timestampNs := timestampNs
  fps := some 40
  frameTimeMs := some 25
  p95FrameTimeMs := some 25

theorem pressure_evidence_twoSlowFrames :
    ((Governor.run (fun _ => none)
        [.evaluate defaultPolicy (slowFrame 1000000000) 1000000000 []]).evaluate (fun _ => none)
      defaultPolicy (slowFrame 2000000000) 2000000000 []).2.pressure = .emergency ∧
    ∃ earlier span later,
      Governor.analysedSamples (fun _ => none)
          ([.evaluate defaultPolicy (slowFrame 1000000000) 1000000000 []] ++
            [.evaluate defaultPolicy (slowFrame 2000000000) 2000000000 []]) =
        earlier ++ span ++ later ∧
      Switched .emergency span later ∧
      (∀ a ∈ span, SameSource a defaultPolicy (slowFrame 2000000000)) := by
  have hpressure : ((Governor.run (fun _ => none)
      [.evaluate defaultPolicy (slowFrame 1000000000) 1000000000 []]).evaluate (fun _ => none)
      defaultPolicy (slowFrame 2000000000) 2000000000 []).2.pressure = .emergency := by
    decide +kernel
  obtain ⟨earlier, span, later, hsplit, hswitched, hsource, _⟩ :=
    pressure_evidence (fun _ => none)
      [.evaluate defaultPolicy (slowFrame 1000000000) 1000000000 []] defaultPolicy
      (slowFrame 2000000000) 2000000000 [] .emergency (.inr (.inr rfl)) hpressure
  exact ⟨hpressure, earlier, span, later, hsplit, hswitched, hsource⟩

/-- **A reset forgets the quality application**: after `notify_quality_applied` and a reset, two
frames from before it are all that an emergency rests on. -/
theorem emergency_before_application :
    ((Governor.run (fun _ => none)
        [.notifyQualityApplied 10000000000, .reset,
          .evaluate defaultPolicy (slowFrame 1000000000) 1000000000 []]).evaluate (fun _ => none)
      defaultPolicy (slowFrame 2000000000) 2000000000 []).2.pressure = .emergency ∧
    ∀ a ∈ Governor.analysedSamples (fun _ => none)
        [.notifyQualityApplied 10000000000, .reset,
          .evaluate defaultPolicy (slowFrame 1000000000) 1000000000 [],
          .evaluate defaultPolicy (slowFrame 2000000000) 2000000000 []],
      a.sample.timestampNs < 10000000000 := by
  decide +kernel

end Kf2Optimizer.Optimizer
