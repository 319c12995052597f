/-
# The probe's Adaptive commands

`KF2OptimizerTelemetryProbe.ApplyAdaptiveResourceControl` turns a checked command into calls of
the graphics actuator and of the live effect managers.  One command can fail at four places: at
the graphics write, at its rollback, at the effect managers, and at the rollback of those.

The snapshot's flags say what is owed after each, and `known_quality_is_live` says they can be
believed: a captured snapshot that calls its quality known and owes nothing describes the live
settings, and a pending restore remembers the qualities of the last composition that verified.

A composition is VERIFIED when its graphics read back and, where the command goes on to the
effect managers, those do too: the caller of `ApplyQualityComposition` owns the debt until both
verify.  `Probe.verified` keeps the qualities of the last one; no code reads it.
-/
import Kf2Optimizer.Graphics.OriginalRestored

namespace Kf2Optimizer.Graphics

open Text Game StepMachine

/-! ## 1. The probe -/

/-- What a command reads and writes.  The viewport interaction makes the snapshot before it hands
it to a probe. -/
structure Probe where
  gate : ControlGate
  session : Session
  adaptiveRuntimeEnabled : Bool
  fixedSessionEffectsApplied : Bool
  adaptiveQualityRestoreCompletedForLastCommand : Bool
  adaptiveDisableCommittedForLastCommand : Bool
  adaptiveGraphicsQuality : ℤ
  adaptiveGraphicsResource : Bytes
  /-- What the calls of `ApplyAdaptiveEffectRuntimeReadback` to come return. -/
  runtimes : ℕ → Bool
  verified : Qualities

abbrev Probe.snapshot (p : Probe) : AdaptiveGraphicsState := p.session.snapshot

/-- `ApplyAdaptiveEffectRuntimeReadback`: the live effect managers follow the settings, or one
of them does not. -/
def Probe.effectRuntime (p : Probe) : Bool × Probe :=
  (p.runtimes 0, { p with runtimes := fun n => p.runtimes (n + 1) })

/-- `KF2OptimizerAdaptiveGraphics.RestoreOriginal`, which composes everything at 100. -/
def Probe.restoreOriginal (p : Probe) : Bool × Probe :=
  let (restored, session) := Graphics.restoreOriginal p.session
  (restored, { p with session, verified := if restored then .full else p.verified })

/-- `ResolveAdaptiveQualityRestoreDebt`. -/
def Probe.resolveDebt (p : Probe) : Bool × Probe :=
  if !p.snapshot.qualityRestorePending then (true, p) else
  let (graphicsRestored, session) := applyQualityRestoreDebt p.session
  let p := { p with session }
  if !graphicsRestored then (false, p) else
  let (effectRuntimeRestored, p) := p.effectRuntime
  if !effectRuntimeRestored then (false, p) else
  (true, { p with
    session := { p.session with snapshot := clearQualityRestoreDebt p.snapshot }
    verified := p.snapshot.quality })

/-- `RollbackAdaptiveResourceControl`. -/
def Probe.rollback (p : Probe) (quality : Qualities) : Bool × Probe :=
  let (restored, p) := Probe.resolveDebt { p with
    session := { p.session with snapshot := setQualityRestoreDebt p.snapshot quality } }
  (restored, if restored then { p with adaptiveQualityRestoreCompletedForLastCommand := true }
    else p)

/-- `EnsureFixedSessionEffects`, after an original that was owed is restored. -/
def Probe.ensureFixedEffects (p : Probe) : Bool × Probe :=
  if p.fixedSessionEffectsApplied then (true, p) else
  let (applied, session) := applyFixedSessionEffects p.session
  let p := { p with session }
  if !applied then (false, p) else
  let (followed, p) := p.effectRuntime
  if !followed then (false, (p.restoreOriginal.2.effectRuntime).2) else
  (true, { p with fixedSessionEffectsApplied := true, verified := p.snapshot.quality })

/-- `EnsureFixedSessionEffects`. -/
def Probe.ensureFixedSessionEffects (p : Probe) : Bool × Probe :=
  if p.snapshot.originalRestorePending then
    let (restored, p) := p.restoreOriginal
    if !restored then (false, p)
    else Probe.ensureFixedEffects { p with fixedSessionEffectsApplied := false }
  else p.ensureFixedEffects

/-- `SetAdaptiveRuntimeEnabled`; `running` says that the world is a standalone one and the runtime
not quiesced. -/
def Probe.setAdaptiveRuntimeEnabled (running enabled : Bool) (p : Probe) : Bool × Probe :=
  if !running then (false, p) else
  if enabled then
    let (ensured, p) := p.ensureFixedSessionEffects
    if !ensured then (false, p) else (true, { p with adaptiveRuntimeEnabled := true })
  else
    let p := { p with
      adaptiveRuntimeEnabled := false
      adaptiveDisableCommittedForLastCommand := true }
    let (graphicsRestored, p) := p.restoreOriginal
    let p := { p with fixedSessionEffectsApplied := false }
    -- Fixed effects are never composed with an unverified old quality.
    if !graphicsRestored then (false, p) else p.ensureFixedSessionEffects

/-- The command consumes its sequence. -/
def Probe.consume (p : Probe) (control : Control) : Probe :=
  { p with gate := { p.gate with adaptiveLastControlSequence := control.sequence } }

/-- The quality branch of `ApplyAdaptiveResourceControl`. -/
def Probe.applyQuality (control : Control) (p : Probe) : Bool × Probe :=
  if !p.adaptiveRuntimeEnabled then (false, p) else
  let previous := p.snapshot.quality
  let (applied, session) := applyResource control.resource control.quality p.session
  let p := { p with session }
  if !applied then (false, p) else
  let (followed, p) := p.effectRuntime
  if !followed then (false, (p.rollback previous).2) else
  (true, Probe.consume { p with
    adaptiveGraphicsQuality := control.quality
    adaptiveGraphicsResource := control.resource
    verified := p.snapshot.quality } control)

/-- The mode branch of `ApplyAdaptiveResourceControl`. -/
def Probe.applyMode (running : Bool) (control : Control) (p : Probe) : Bool × Probe :=
  let enable := sameText control.resource (ascii "enable")
  let (applied, p) := p.setAdaptiveRuntimeEnabled running enable
  let p := if p.adaptiveDisableCommittedForLastCommand then p.consume control else p
  if !applied then (false, p) else
  let p := if sameText control.resource (ascii "disable") then
    { p with adaptiveGraphicsQuality := 100, adaptiveGraphicsResource := control.resource } else p
  (true, p.consume control)

/-- `ApplyAdaptiveResourceControl`. -/
def Probe.applyAdaptiveResourceControl (running : Bool) (control : Control) (p : Probe) :
    Bool × Probe :=
  let p := { p with
    adaptiveQualityRestoreCompletedForLastCommand := false
    adaptiveDisableCommittedForLastCommand := false }
  if !p.gate.accepts control then (false, p) else
  if !sameText control.resource (ascii "disable") && p.snapshot.qualityRestorePending then
    let (resolved, p) := p.resolveDebt
    if !resolved then (false, p)
    else (false, Probe.consume { p with
      adaptiveQualityRestoreCompletedForLastCommand := true } control)
  else if sameText control.resource (ascii "enable") ||
      sameText control.resource (ascii "disable") then p.applyMode running control
  else p.applyQuality control

/-! ## 2. What the flags say -/

/-- The live settings read back as the composition that the snapshot describes. -/
def Composed (s : Session) : Prop := readbackMatches s.live (composition s.snapshot s.live) = true

/-- The flags of the snapshot tell the truth, `verified` being the last verified qualities. -/
structure Sound (verified : Qualities) (s : Session) : Prop where
  free : s.snapshot.originalCaptured = false →
    s.snapshot.qualityRestorePending = false ∧ s.snapshot.quality = .full ∧ verified = .full
  live : s.snapshot.originalCaptured = true → s.snapshot.qualityStateKnown = true →
    s.snapshot.qualityRestorePending = false → s.snapshot.originalRestorePending = false →
    Composed s
  owed : s.snapshot.qualityRestorePending = true → s.snapshot.restoreQuality = verified
  settled : s.snapshot.qualityRestorePending = false → s.snapshot.quality = verified

variable {verified : Qualities} {s : Session}

/-- A composition that was written and read back, under any flags. -/
theorem composed_of_readback {s' snapshot : AdaptiveGraphicsState} {engine : Engine}
    {current : GFXSettings} (ho : s'.original = snapshot.original)
    (hq : s'.quality = snapshot.quality)
    (hd : s'.fixedOverdrawQuality = snapshot.fixedOverdrawQuality)
    (he : s'.fixedEffectsQuality = snapshot.fixedEffectsQuality)
    (hread : readbackMatches engine.settings (composition snapshot current) = true) :
    Composed ⟨s', engine⟩ := by
  unfold Composed
  rw [composition_congr ho hq hd he engine.settings current]
  exact hread

theorem Sound.restoreOriginal (h : Sound verified s) :
    Sound (if (restoreOriginal s).1 then .full else verified) (restoreOriginal s).2 := by
  obtain ⟨hcap, heq⟩ | ⟨engine, hcap, -, hrest⟩ := restoreOriginal_cases s
  · rw [heq]
    obtain ⟨hqp, hquality, hverified⟩ := h.free hcap
    subst hverified
    have hvacuous : ¬s.snapshot.originalCaptured = true := by rw [hcap]; exact Bool.false_ne_true
    exact ⟨fun _ => ⟨hqp, hquality, rfl⟩, fun hc => absurd hc hvacuous, h.owed, h.settled⟩
  · obtain ⟨-, heq⟩ | ⟨-, heq⟩ := hrest
    · rw [heq]
      exact ⟨h.free, fun _ _ _ hop => (by cases hop), h.owed, h.settled⟩
    · rw [heq]
      exact ⟨fun _ => ⟨rfl, rfl, rfl⟩, fun hc => (by cases hc), fun hqp => (by cases hqp),
        fun _ => rfl⟩

theorem restoreOriginal_settles (h : (restoreOriginal s).1 = true) (hs : Sound verified s) :
    (restoreOriginal s).2.snapshot.qualityRestorePending = false := by
  obtain ⟨hcap, heq⟩ | ⟨engine, -, -, ⟨-, heq⟩ | ⟨-, heq⟩⟩ := restoreOriginal_cases s
  · rw [heq]; exact (hs.free hcap).1
  · rw [heq] at h; cases h
  · rw [heq]; rfl

/-- A debt that is noted is for the qualities that verified last. -/
theorem sound_setQualityRestoreDebt {snapshot : AdaptiveGraphicsState} {engine : Engine}
    (hcap : snapshot.originalCaptured = true) :
    Sound verified ⟨setQualityRestoreDebt snapshot verified, engine⟩ where
  free hfree := by change snapshot.originalCaptured = false at hfree; rw [hcap] at hfree; cases hfree
  live _ _ hqp := by cases hqp
  owed _ := rfl
  settled hqp := by cases hqp

/-- What the capture at the start of a write leaves of a snapshot without a debt. -/
theorem Sound.captured_quality (h : Sound verified s)
    (hqp : s.snapshot.qualityRestorePending = false) : s.captured.quality = verified := by
  unfold Session.captured
  split
  · exact h.settled hqp
  · rename_i hcap
    exact (h.free (Bool.eq_false_iff.mpr hcap)).2.2.symm

theorem Session.captured_qualityRestorePending (s : Session) :
    s.captured.qualityRestorePending = s.snapshot.qualityRestorePending := by
  unfold Session.captured
  split <;> rfl

theorem Session.captured_restoreQuality (s : Session) :
    s.captured.restoreQuality = s.snapshot.restoreQuality := by
  unfold Session.captured
  split <;> rfl

/-- **`ApplyResource` without a debt.**  When it reads back, its qualities describe the live
settings; when it does not, the previous ones do, or they are owed. -/
theorem Sound.applyResource (h : Sound verified s)
    (hqp : s.snapshot.qualityRestorePending = false) {resource : Bytes} {quality : ℤ}
    (hknown : withResource s.captured resource quality ≠ none) :
    ((applyResource resource quality s).1 = true →
      (applyResource resource quality s).2.snapshot.originalCaptured = true ∧
      Sound (applyResource resource quality s).2.snapshot.quality
        (applyResource resource quality s).2) ∧
    ((applyResource resource quality s).1 = false →
      Sound verified (applyResource resource quality s).2) := by
  have hcap := s.captured_originalCaptured
  have hpending := s.captured_qualityRestorePending.trans hqp
  have hquality := h.captured_quality hqp
  obtain ⟨-, heq⟩ | ⟨hnone, -⟩ | ⟨snapshot, engine, rolled, -, hwith, -, -, hrest⟩ :=
    applyResource_cases resource quality s
  · rw [heq]
    exact ⟨fun hok => (by cases hok), fun _ => h⟩
  · exact absurd hnone hknown
  · obtain ⟨q, d, e, rfl⟩ := withResource_frame hwith
    obtain ⟨hread, heq⟩ | ⟨hread, heq⟩ | heq := hrest
    · rw [heq]
      refine ⟨fun _ => ⟨hcap, fun hfree => ?_, fun _ _ _ _ => ?_, fun hp => ?_, fun _ => rfl⟩,
        fun hok => (by cases hok)⟩
      · change s.captured.originalCaptured = false at hfree
        rw [hcap] at hfree; cases hfree
      · exact composed_of_readback rfl rfl rfl rfl hread
      · change s.captured.qualityRestorePending = true at hp
        rw [hpending] at hp; cases hp
    · rw [heq]
      refine ⟨fun hok => (by cases hok), fun _ => ⟨fun hfree => ?_, fun _ _ _ _ => ?_,
        fun hp => ?_, fun _ => hquality⟩⟩
      · change s.captured.originalCaptured = false at hfree
        rw [hcap] at hfree; cases hfree
      · exact composed_of_readback rfl rfl rfl rfl hread
      · change s.captured.qualityRestorePending = true at hp
        rw [hpending] at hp; cases hp
    · rw [heq, hquality]
      exact ⟨fun hok => (by cases hok), fun _ => sound_setQualityRestoreDebt hcap⟩

/-- **`ApplyQualityRestoreDebt`.**  The debt stays the caller's; a composition that reads back is
the one remembered. -/
theorem Sound.applyQualityRestoreDebt (h : Sound verified s)
    (hqp : s.snapshot.qualityRestorePending = true) :
    (applyQualityRestoreDebt s).2.snapshot.qualityRestorePending = true ∧
    Sound verified (applyQualityRestoreDebt s).2 ∧
    ((applyQualityRestoreDebt s).1 = true →
      (applyQualityRestoreDebt s).2.snapshot.originalCaptured = true ∧
      (applyQualityRestoreDebt s).2.snapshot.quality = verified ∧
      Composed (applyQualityRestoreDebt s).2) := by
  have howed := h.owed hqp
  unfold Graphics.applyQualityRestoreDebt applyQualityComposition
  rw [if_pos hqp]
  cases hrange : s.snapshot.restoreQuality.inRange with
  | false => exact ⟨hqp, h, fun hok => (by cases hok)⟩
  | true =>
    have hpending := s.captured_qualityRestorePending.trans hqp
    refine ⟨hpending, ⟨fun hfree => ?_, fun _ _ hp => ?_, fun _ => ?_, fun hp => ?_⟩,
      fun hread => ⟨s.captured_originalCaptured, howed, ?_⟩⟩
    · change s.captured.originalCaptured = false at hfree
      rw [s.captured_originalCaptured] at hfree; cases hfree
    · change s.captured.qualityRestorePending = false at hp
      rw [hpending] at hp; cases hp
    · exact s.captured_restoreQuality.trans howed
    · change s.captured.qualityRestorePending = false at hp
      rw [hpending] at hp; cases hp
    · exact composed_of_readback rfl rfl rfl rfl hread

/-! ## 3. Commands -/

theorem withResource_fixed {snapshot : AdaptiveGraphicsState} {quality : ℤ} :
    withResource snapshot (ascii "fixed") quality =
      some { snapshot with fixedOverdrawQuality := quality, fixedEffectsQuality := quality } := by
  have hcases : sameText (ascii "fixed") (ascii "recover") = false ∧
      sameText (ascii "fixed") (ascii "gpu") = false ∧
      sameText (ascii "fixed") (ascii "cpu") = false ∧
      sameText (ascii "fixed") (ascii "vram") = false ∧
      sameText (ascii "fixed") (ascii "ram") = false ∧
      sameText (ascii "fixed") (ascii "overdraw") = false ∧
      sameText (ascii "fixed") (ascii "effects") = false ∧
      sameText (ascii "fixed") (ascii "mixed") = false ∧
      sameText (ascii "fixed") (ascii "fixed") = true := by decide +kernel
  obtain ⟨h₁, h₂, h₃, h₄, h₅, h₆, h₇, h₈, h₉⟩ := hcases
  simp only [withResource, h₁, h₂, h₃, h₄, h₅, h₆, h₇, h₈, h₉, Bool.false_eq_true, if_false,
    if_true]

/-- `ApplyResource` has a branch for every quality resource. -/
theorem withResource_ne_none {snapshot : AdaptiveGraphicsState} {resource : Bytes} {quality : ℤ}
    (h : isAdaptiveQualityResource resource = true) :
    withResource snapshot resource quality ≠ none := by
  simp only [isAdaptiveQualityResource, Bool.and_eq_true, Bool.not_eq_true'] at h
  obtain ⟨⟨hcontrol, henable⟩, hdisable⟩ := h
  simp only [isAdaptiveControlResource, AdaptiveResourceControl.all, List.any_cons, List.any_nil,
    resourceName, Optimizer.adaptiveResourceControlName, henable, hdisable, Bool.or_false,
    Bool.or_eq_true] at hcontrol
  unfold withResource
  intro hnone
  repeat' split at hnone
  all_goals first | (cases hnone; done) | simp_all

theorem Sound.applyFixedSessionEffects (h : Sound verified s)
    (hqp : s.snapshot.qualityRestorePending = false) :
    ((applyFixedSessionEffects s).1 = true →
      (applyFixedSessionEffects s).2.snapshot.quality = verified ∧
      Sound verified (applyFixedSessionEffects s).2) ∧
    ((applyFixedSessionEffects s).1 = false → Sound verified (applyFixedSessionEffects s).2) := by
  have hknown : withResource s.captured (ascii "fixed") fixedSessionEffectsQuality ≠ none := by
    rw [withResource_fixed]
    exact Option.some_ne_none _
  obtain ⟨hok, hfailed⟩ := Sound.applyResource h hqp hknown
  refine ⟨fun happlied => ?_, hfailed⟩
  obtain ⟨-, hsound⟩ := hok happlied
  have hquality : (Graphics.applyResource (ascii "fixed") fixedSessionEffectsQuality s).2.snapshot.quality =
      verified := by
    obtain ⟨-, heq⟩ | ⟨-, heq⟩ | ⟨snapshot, engine, rolled, -, hwith, -, -, hrest⟩ :=
      applyResource_cases (ascii "fixed") fixedSessionEffectsQuality s
    · unfold Graphics.applyFixedSessionEffects at happlied
      rw [heq] at happlied; cases happlied
    · unfold Graphics.applyFixedSessionEffects at happlied
      rw [heq] at happlied; cases happlied
    · rw [withResource_fixed] at hwith
      obtain rfl := Option.some_inj.mp hwith
      obtain ⟨-, heq⟩ | ⟨-, heq⟩ | heq := hrest <;> rw [heq] <;> exact h.captured_quality hqp
  exact ⟨hquality, hquality ▸ hsound⟩

/-- The flags of the probe's snapshot tell the truth. -/
abbrev Probe.Truthful (p : Probe) : Prop := Sound p.verified p.session

variable {p : Probe}

theorem Probe.Truthful.restoreOriginal (h : p.Truthful) : p.restoreOriginal.2.Truthful :=
  Sound.restoreOriginal h

theorem Probe.Truthful.resolveDebt (h : p.Truthful) : p.resolveDebt.2.Truthful := by
  unfold Probe.resolveDebt
  cases hqp : p.snapshot.qualityRestorePending with
  | false => exact h
  | true =>
    obtain ⟨hpending, hsound, hok⟩ := Sound.applyQualityRestoreDebt h hqp
    simp only [Bool.not_true, Bool.false_eq_true, if_false]
    generalize applyQualityRestoreDebt p.session = result at *
    obtain ⟨graphicsRestored, session⟩ := result
    simp only at hpending hsound hok ⊢
    cases graphicsRestored with
    | false => exact hsound
    | true =>
      obtain ⟨hcap, hquality, hcomposed⟩ := hok rfl
      simp only [Bool.not_true, Bool.false_eq_true, if_false]
      split
      · exact hsound
      · refine ⟨fun hfree => ?_, fun _ _ _ _ => hcomposed, fun hp => (by cases hp), fun _ => rfl⟩
        change session.snapshot.originalCaptured = false at hfree
        rw [hcap] at hfree; cases hfree

/-- A debt for the qualities that verified last, and the attempt to pay it at once. -/
theorem Probe.truthful_rollback (hcap : p.snapshot.originalCaptured = true) :
    (p.rollback p.verified).2.Truthful := by
  have h : Probe.Truthful { p with
      session := { p.session with snapshot := setQualityRestoreDebt p.snapshot p.verified } } :=
    sound_setQualityRestoreDebt hcap
  have h' := h.resolveDebt
  unfold Probe.rollback
  simp only
  split
  · exact h'
  · exact h'

theorem Probe.Truthful.ensureFixedEffects (h : p.Truthful)
    (hqp : p.snapshot.qualityRestorePending = false) : p.ensureFixedEffects.2.Truthful := by
  unfold Probe.ensureFixedEffects
  split
  · exact h
  · obtain ⟨hok, hfailed⟩ := Sound.applyFixedSessionEffects h hqp
    generalize applyFixedSessionEffects p.session = result at *
    obtain ⟨applied, session⟩ := result
    simp only at hok hfailed ⊢
    cases applied with
    | false => exact hfailed rfl
    | true =>
      obtain ⟨hquality, hsound⟩ := hok rfl
      simp only [Bool.not_true, Bool.false_eq_true, if_false]
      split
      · exact Sound.restoreOriginal hsound
      · exact hquality.symm ▸ hsound

theorem Probe.Truthful.ensureFixedSessionEffects (h : p.Truthful)
    (hqp : p.snapshot.qualityRestorePending = false) : p.ensureFixedSessionEffects.2.Truthful := by
  unfold Probe.ensureFixedSessionEffects
  by_cases hop : p.snapshot.originalRestorePending = true
  · rw [if_pos hop]
    have h' := h.restoreOriginal
    have hsettled := fun hok => restoreOriginal_settles hok h
    simp only
    by_cases hok : p.restoreOriginal.1 = true
    · rw [if_neg (by simp [hok])]
      exact Probe.Truthful.ensureFixedEffects (p := { p.restoreOriginal.2 with
        fixedSessionEffectsApplied := false }) h' (hsettled hok)
    · rw [if_pos (by simp [hok])]
      exact h'
  · rw [if_neg hop]
    exact h.ensureFixedEffects hqp

theorem Probe.Truthful.setAdaptiveRuntimeEnabled (h : p.Truthful) (running : Bool) {enabled : Bool}
    (hqp : enabled = true → p.snapshot.qualityRestorePending = false) :
    (p.setAdaptiveRuntimeEnabled running enabled).2.Truthful := by
  unfold Probe.setAdaptiveRuntimeEnabled
  cases running with
  | false => exact h
  | true =>
    cases enabled with
    | true =>
      have h' := h.ensureFixedSessionEffects (hqp rfl)
      simp only [Bool.not_true, Bool.false_eq_true, if_false, if_true]
      by_cases hok : p.ensureFixedSessionEffects.1 = true
      · rw [if_neg (by simp [hok])]; exact h'
      · rw [if_pos (by simp [hok])]; exact h'
    | false =>
      have h' := h.restoreOriginal
      simp only [Bool.not_true, Bool.false_eq_true, if_false]
      split
      · exact h'
      · rename_i hok
        simp only [Bool.not_eq_true', Bool.not_eq_false] at hok
        exact Probe.Truthful.ensureFixedSessionEffects (p := { p.restoreOriginal.2 with
          adaptiveRuntimeEnabled := false, adaptiveDisableCommittedForLastCommand := true,
          fixedSessionEffectsApplied := false }) h' (restoreOriginal_settles hok h)

theorem not_disable_of_enable {resource : Bytes}
    (h : sameText resource (ascii "enable") = true) :
    sameText resource (ascii "disable") = false := by
  simp only [sameText, decide_eq_true_eq, decide_eq_false_iff_not] at h ⊢
  rw [h]
  decide +kernel

/-- A command that is not about the mode names a quality resource. -/
theorem isAdaptiveQualityResource_of_accepts {gate : ControlGate} {control : Control}
    (h : gate.accepts control = true)
    (hmode : sameText control.resource (ascii "enable") = false ∧
      sameText control.resource (ascii "disable") = false) :
    isAdaptiveQualityResource control.resource = true := by
  unfold ControlGate.accepts at h
  simp only [hmode, Bool.or_false, Bool.not_false, Bool.true_and, Bool.not_or, Bool.and_eq_true,
    Bool.not_not] at h
  exact h.2

theorem Probe.Truthful.applyMode (h : p.Truthful) (running : Bool) {control : Control}
    (hqp : sameText control.resource (ascii "enable") = true →
      p.snapshot.qualityRestorePending = false) :
    (p.applyMode running control).2.Truthful := by
  have h' := h.setAdaptiveRuntimeEnabled running hqp
  unfold Probe.applyMode
  simp only
  repeat' split
  all_goals exact h'

theorem Probe.Truthful.applyQuality (h : p.Truthful)
    (hqp : p.snapshot.qualityRestorePending = false) {control : Control}
    (hresource : isAdaptiveQualityResource control.resource = true) :
    (p.applyQuality control).2.Truthful := by
  have hknown : withResource p.session.captured control.resource control.quality ≠ none :=
    withResource_ne_none hresource
  obtain ⟨hok, hfailed⟩ := Sound.applyResource h hqp hknown
  have hprevious : p.snapshot.quality = p.verified := Sound.settled h hqp
  unfold Probe.applyQuality
  split
  · exact h
  · generalize applyResource control.resource control.quality p.session = result at *
    obtain ⟨applied, session⟩ := result
    simp only at hok hfailed ⊢
    cases applied with
    | false => exact hfailed rfl
    | true =>
      obtain ⟨hcap, hsound⟩ := hok rfl
      simp only [Bool.not_true, Bool.false_eq_true, if_false]
      split
      · rw [hprevious]
        exact Probe.truthful_rollback
          (p := (Probe.effectRuntime { p with session := session }).2) hcap
      · exact hsound

/-- **One command**, whatever fails in it. -/
theorem Probe.Truthful.applyAdaptiveResourceControl (h : p.Truthful) (running : Bool)
    (control : Control) : (p.applyAdaptiveResourceControl running control).2.Truthful := by
  unfold Probe.applyAdaptiveResourceControl
  simp only
  split
  · exact h
  · rename_i haccepts
    split
    · have h' := Probe.Truthful.resolveDebt (p := { p with
        adaptiveQualityRestoreCompletedForLastCommand := false
        adaptiveDisableCommittedForLastCommand := false }) h
      split <;> exact h'
    · rename_i hdebt
      have hqp : sameText control.resource (ascii "disable") = false →
          p.snapshot.qualityRestorePending = false := by
        intro hdisable
        simpa [hdisable] using hdebt
      split
      · refine Probe.Truthful.applyMode (p := { p with
          adaptiveQualityRestoreCompletedForLastCommand := false
          adaptiveDisableCommittedForLastCommand := false }) h running fun henable => hqp ?_
        exact not_disable_of_enable henable
      · rename_i hmode
        simp only [Bool.or_eq_true, not_or, Bool.not_eq_true] at hmode
        refine Probe.Truthful.applyQuality (p := { p with
          adaptiveQualityRestoreCompletedForLastCommand := false
          adaptiveDisableCommittedForLastCommand := false }) h (hqp hmode.2) ?_
        exact isAdaptiveQualityResource_of_accepts (by simpa using haccepts) hmode

/-! ## 4. Runs -/

/-- A command, and whether it meets a running world. -/
structure Command where
  running : Bool
  control : Control

/-- The probe after a run of commands. -/
def Probe.run (p : Probe) (commands : List Command) : Probe :=
  exec (fun p c => (p.applyAdaptiveResourceControl c.running c.control).2) p commands

/-- A probe before its first command: the snapshot has its defaults, and anything may be live. -/
structure Probe.Fresh (p : Probe) : Prop where
  snapshot : p.session.snapshot = .new
  verified : p.verified = .full

theorem Probe.Fresh.truthful (h : p.Fresh) : p.Truthful := by
  obtain ⟨hnew, hverified⟩ := h
  constructor
  · intro _; rw [hnew, hverified]; exact ⟨rfl, rfl, rfl⟩
  · intro hcap; rw [hnew] at hcap; cases hcap
  · intro hqp; rw [hnew] at hqp; cases hqp
  · intro _; rw [hnew, hverified]; rfl

/-- **A known quality is live.**  After any commands and any failures, a captured snapshot that
calls its quality known and owes nothing describes the live settings; and what a pending restore
remembers is the last verified composition. -/
theorem known_quality_is_live (hfresh : p.Fresh) (commands : List Command) :
    ((p.run commands).snapshot.originalCaptured = true →
      (p.run commands).snapshot.qualityStateKnown = true →
      (p.run commands).snapshot.qualityRestorePending = false →
      (p.run commands).snapshot.originalRestorePending = false →
      readbackMatches (p.run commands).session.live
        (composition (p.run commands).snapshot (p.run commands).session.live) = true) ∧
    ((p.run commands).snapshot.qualityRestorePending = true →
      (p.run commands).snapshot.restoreQuality = (p.run commands).verified) := by
  have h : (p.run commands).Truthful :=
    exec_invariant (fun p c (h : p.Truthful) => h.applyAdaptiveResourceControl c.running c.control)
      commands p hfresh.truthful
  exact ⟨Sound.live h, Sound.owed h⟩

/-- A probe whose effect managers follow the fixed baseline and then fail twice. -/
def failingProbe : Probe where
  gate := ⟨List.replicate 32 0x30, 0⟩
  session := ⟨.new, { forgetfulEngine with stored := fun _ _ => true }⟩
  adaptiveRuntimeEnabled := false
  fixedSessionEffectsApplied := false
  adaptiveQualityRestoreCompletedForLastCommand := false
  adaptiveDisableCommittedForLastCommand := false
  adaptiveGraphicsQuality := 100
  adaptiveGraphicsResource := []
  runtimes n := n == 0
  verified := .full

/-- The mode is enabled, which holds; the quality fails, and so does its rollback. -/
def failingCommands : List Command :=
  [⟨true, ⟨List.replicate 32 0x30, 1, ascii "enable", 100⟩⟩,
   ⟨true, ⟨List.replicate 32 0x30, 2, ascii "gpu", 50⟩⟩]

theorem known_quality_is_live_failing :
    readbackMatches (failingProbe.run (failingCommands.take 1)).session.live
      (composition (failingProbe.run (failingCommands.take 1)).snapshot
        (failingProbe.run (failingCommands.take 1)).session.live) = true ∧
    (failingProbe.run failingCommands).snapshot.qualityRestorePending = true ∧
    (failingProbe.run failingCommands).snapshot.restoreQuality =
      (failingProbe.run failingCommands).verified := by
  have hfresh : failingProbe.Fresh := ⟨rfl, rfl⟩
  have hpending : (failingProbe.run failingCommands).snapshot.qualityRestorePending = true := by
    decide +kernel
  exact ⟨(known_quality_is_live hfresh (failingCommands.take 1)).1 (by decide +kernel)
    (by decide +kernel) (by decide +kernel) (by decide +kernel), hpending,
    (known_quality_is_live hfresh failingCommands).2 hpending⟩

end Kf2Optimizer.Graphics
