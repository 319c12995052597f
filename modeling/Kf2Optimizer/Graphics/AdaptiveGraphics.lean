/-
# The live graphics actuator

`KF2OptimizerAdaptiveGraphics` composes KF2's settings from the user's own and six qualities,
writes them, and reads back what the engine stored.  A write may be stored in part; a readback
that does not match is answered by writing the previous qualities, and when that does not read
back either, by a debt that a later command has to pay.

Every composition starts from the user's settings (`composition_congr`), never from what is live,
and an applier takes a setting from those or from a fixed grid of values (`composition_written`).
-/
import Kf2Optimizer.Graphics.AdaptiveGraphicsState
import Kf2Optimizer.Game.AdaptiveControlConnection
import Kf2Optimizer.Lib.Binary32

namespace Kf2Optimizer.Graphics

open Tables Text Game

/-! ## 1. The appliers -/

/-- UnrealScript's `FMin`. -/
def fMin (a b : Float32) : Float32 := if a ≤ b then a else b

/-- UnrealScript's `FMax`. -/
def fMax (a b : Float32) : Float32 := if b ≤ a then a else b

/-- `float(quality) / d`. -/
def fraction (quality : ℤ) (d : ℕ) : Float32 := Float32.ofInt quality / Float32.ofInt d

/-- `Requested.f = Min(Requested.f, v)`. -/
def lower (f : GFXField .int) (v : ℤ) (requested : GFXSettings) : GFXSettings :=
  requested.set f (min (requested ⟨.int, f⟩) v)

/-- `Requested.f = Max(Requested.f, v)`. -/
def raise (f : GFXField .int) (v : ℤ) (requested : GFXSettings) : GFXSettings :=
  requested.set f (max (requested ⟨.int, f⟩) v)

/-- `Requested.f = FMin(Requested.f, v)`. -/
def fLower (f : GFXField .float) (v : Float32) (requested : GFXSettings) : GFXSettings :=
  requested.set f (fMin (requested ⟨.float, f⟩) v)

/-- `Requested.f = FMax(Requested.f, v)`. -/
def fRaise (f : GFXField .float) (v : Float32) (requested : GFXSettings) : GFXSettings :=
  requested.set f (fMax (requested ⟨.float, f⟩) v)

/-- `Requested.f = b`. -/
def allow (f : GFXField .bool) (b : Bool) (requested : GFXSettings) : GFXSettings :=
  requested.set f b

/-- `if (Quality <= bound) { ... }`. -/
def upTo (quality bound : ℤ) (change : GFXSettings → GFXSettings) (requested : GFXSettings) :
    GFXSettings :=
  if quality ≤ bound then change requested else requested

/-- The local variables of `ApplyGpu`. -/
structure GpuTier where
  shadowResolution : ℤ
  shadowFadeResolution : ℤ
  minShadowResolution : ℤ
  shadowDensity : Float32
  shadowDistance : Float32
  motionBlurQuality : ℤ
  depthOfFieldQuality : ℤ
  distanceFogQuality : ℤ

def gpuTier (quality : ℤ) : GpuTier :=
  if 90 ≤ quality then ⟨4096, 64, 32, 2.25, 1.0, 1, 3, 1⟩
  else if 80 ≤ quality then ⟨2048, 96, 48, 2.0, 0.95, 1, 3, 1⟩
  else if 70 ≤ quality then ⟨2048, 128, 64, 1.75, 0.9, 1, 2, 1⟩
  else if 60 ≤ quality then ⟨1024, 160, 80, 1.5, 0.85, 0, 2, 1⟩
  else if 40 ≤ quality then ⟨1024, 224, 112, 1.25, 0.8, 0, 1, 0⟩
  else ⟨512, 256, 128, 1.0, 0.75, 0, 0, 0⟩

/-- `ApplyGpu`. -/
def applyGpu (quality : ℤ) (requested : GFXSettings) : GFXSettings :=
  if 100 ≤ quality then requested else
  let tier := gpuTier quality
  requested
    |> lower .maxWholeSceneDominantShadowResolution tier.shadowResolution
    |> lower .maxShadowResolution tier.shadowResolution
    |> fLower .shadowTexelsPerPixel tier.shadowDensity
    |> raise .shadowFadeResolution tier.shadowFadeResolution
    |> raise .minShadowResolution tier.minShadowResolution
    |> fLower .globalShadowDistanceScale tier.shadowDistance
    |> lower .bloomQuality (if 90 ≤ quality then 5 else if 70 ≤ quality then 4 else 3)
    |> lower .motionBlurQuality tier.motionBlurQuality
    |> lower .depthOfFieldQuality tier.depthOfFieldQuality
    |> lower .distanceFogQuality tier.distanceFogQuality
    |> upTo quality 80 (allow .allowScreenSpaceReflections false)
    |> upTo quality 70 (fun r => r
        |> allow .hbao false
        |> allow .allowSubsurfaceScattering false
        |> allow .dropParticleDistortion true)
    |> upTo quality 60 (fun r => r
        |> allow .depthOfField false
        |> allow .allowLightShafts false
        |> allow .filteredDistortion false)
    |> upTo quality 50 (fun r => r
        |> allow .allowLightCones false
        |> allow .allowLensFlares false
        |> allow .allowExplosionLights false
        |> allow .allowSprayActorLights false
        |> allow .allowPilotLights false)
    |> upTo quality 40 (allow .distortion false)
    |> upTo quality 30 (fun r => r
        |> allow .ambientOcclusion false
        |> allow .allowForegroundPreshadows false)
    |> upTo quality 20 (fun r => r
        |> allow .bloom false
        |> allow .allowWholeSceneDominantShadows false
        |> allow .allowPerObjectShadows false)
    |> upTo quality 10 (allow .allowDynamicShadows false)

/-- `ApplyOverdraw`. -/
def applyOverdraw (quality : ℤ) (requested : GFXSettings) : GFXSettings :=
  if 100 ≤ quality then requested else
  let particleLodBias :=
    if 90 ≤ quality then 0 else if 70 ≤ quality then 1 else if 50 ≤ quality then 2 else 3
  requested
    |> raise .particleLODBias particleLodBias
    |> lower .maxImpactEffectDecals (max 8 (quality.tdiv 4))
    |> lower .maxExplosionDecals (max 8 (quality.tdiv 6))
    |> lower .maxBloodEffects (max 12 (quality.tdiv 3))
    |> lower .maxGoreEffects (max 8 (quality.tdiv 8))
    |> lower .maxPersistentSplatsPerFrame (max 25 quality)
    |> lower .maxBodyWoundDecals (max 2 (quality.tdiv 20))
    |> upTo quality 90 (allow .dropParticleDistortion true)
    |> upTo quality 70 (allow .filteredDistortion false)
    |> upTo quality 50 (allow .allowSecondaryBloodEffects false)
    |> upTo quality 40 (allow .distortion false)
    |> upTo quality 30 (allow .allowBloodSplatterDecals false)

/-- `ApplyEffects`. -/
def applyEffects (quality : ℤ) (requested : GFXSettings) : GFXSettings :=
  if 100 ≤ quality then requested else
  let particleLodBias :=
    if 80 ≤ quality then 1 else if 60 ≤ quality then 2 else if 40 ≤ quality then 3
    else if 20 ≤ quality then 4 else 5
  requested
    |> raise .particleLODBias particleLodBias
    |> fLower .emitterPoolScale (fMax 0.15 (fraction quality 100))
    |> fLower .shellEjectLifetime (fMax 1.0 (fraction quality 5))
    |> fLower .goreFXLifetimeMultiplier (fMax 0.2 (fraction quality 100))
    |> fLower .destructionLifetimeScale (fMax 0.2 (fraction quality 100))
    |> lower .maxImpactEffectDecals (max 1 (quality.tdiv 10))
    |> lower .maxExplosionDecals (max 1 (quality.tdiv 10))
    |> lower .maxBloodEffects (max 2 (quality.tdiv 5))
    |> lower .maxGoreEffects (max 2 (quality.tdiv 10))
    |> lower .maxPersistentSplatsPerFrame (max 5 (quality.tdiv 2))
    |> lower .maxBodyWoundDecals (max 0 (quality.tdiv 25))
    |> upTo quality 80 (allow .dropParticleDistortion true)
    |> upTo quality 60 (fun r => r
        |> allow .filteredDistortion false
        |> allow .allowSecondaryBloodEffects false)
    |> upTo quality 40 (fun r => r
        |> allow .distortion false
        |> allow .allowBloodSplatterDecals false)
    |> upTo quality 20 (fun r => r
        |> allow .allowExplosionLights false
        |> allow .allowSprayActorLights false)

/-- The local variables of `ApplyCpu`: the detail mode, the LOD bias and the kinematic scale. -/
def cpuTier (quality : ℤ) : ℤ × ℤ × Float32 :=
  if 90 ≤ quality then (2, 0, 1.1)
  else if 80 ≤ quality then (2, 1, 1.2)
  else if 70 ≤ quality then (2, 1, 1.3)
  else if 60 ≤ quality then (1, 1, 1.5)
  else if 50 ≤ quality then (1, 2, 1.75)
  else if 40 ≤ quality then (1, 2, 2.0)
  else if 30 ≤ quality then (0, 2, 2.3)
  else (0, 3, 3.0)

/-- `ApplyCpu`. -/
def applyCpu (quality : ℤ) (requested : GFXSettings) : GFXSettings :=
  if 100 ≤ quality then requested else
  let tier := cpuTier quality
  requested
    |> lower .detailMode tier.1
    |> raise .skeletalMeshLODBias tier.2.1
    |> fRaise .kinematicUpdateDistFactorScale tier.2.2
    |> raise .particleLODBias tier.2.1
    |> upTo quality 80 (allow .shouldCorpseCollideWithDeadAfterSleep false)
    |> upTo quality 60 (fun r => r
        |> allow .allowLightFunctions false
        |> allow .shouldCorpseCollideWithDead false)
    |> upTo quality 40 (allow .shouldCorpseCollideWithLiving false)

/-- The local variables of `ApplyVram`: the bias and the anisotropy. -/
def vramTier (quality : ℤ) : ℤ × ℤ :=
  if 90 ≤ quality then (0, 8)
  else if 80 ≤ quality then (1, 8)
  else if 60 ≤ quality then (1, 4)
  else if 40 ≤ quality then (2, 4)
  else if 20 ≤ quality then (2, 2)
  else (3, 2)

/-- `ApplyVram`. -/
def applyVram (quality : ℤ) (requested : GFXSettings) : GFXSettings :=
  if 100 ≤ quality then requested else
  let tier := vramTier quality
  requested
    |> raise .characterBias tier.1
    |> raise .weapon1stBias tier.1
    |> raise .weapon3rdBias tier.1
    |> raise .environmentBias tier.1
    |> raise .fxBias tier.1
    |> raise .shadowmapBias tier.1
    |> lower .maxAnisotropy tier.2

/-- `ApplyRam`. -/
def applyRam (quality : ℤ) (requested : GFXSettings) : GFXSettings :=
  if 100 ≤ quality then requested else
  requested
    |> fLower .emitterPoolScale (fMax 0.25 (fraction quality 100))
    |> fLower .shellEjectLifetime (fMax 2.0 (fraction quality 5))
    |> fLower .goreFXLifetimeMultiplier (fMax 0.5 (fraction quality 100))
    |> lower .maxImpactEffectDecals (max 8 (quality.tdiv 4))
    |> lower .maxExplosionDecals (max 8 (quality.tdiv 6))
    |> lower .maxBloodEffects (max 12 (quality.tdiv 3))
    |> lower .maxGoreEffects (max 8 (quality.tdiv 8))
    |> lower .maxPersistentSplatsPerFrame (max 25 quality)
    |> lower .maxBodyWoundDecals (max 2 (quality.tdiv 20))
    |> fLower .destructionLifetimeScale (fMax 0.25 (fraction quality 100))
    |> upTo quality 50 (allow .allowSecondaryBloodEffects false)
    |> upTo quality 30 (allow .allowBloodSplatterDecals false)

/-- `GetEffectiveOverdrawQuality`. -/
def effectiveOverdrawQuality (snapshot : AdaptiveGraphicsState) : ℤ :=
  min snapshot.quality.overdraw snapshot.fixedOverdrawQuality

/-- `GetEffectiveEffectsQuality`. -/
def effectiveEffectsQuality (snapshot : AdaptiveGraphicsState) : ℤ :=
  min snapshot.quality.effects snapshot.fixedEffectsQuality

/-- What every write of qualities requests: the user's settings over the current ones, then the
appliers in their order. -/
def composition (snapshot : AdaptiveGraphicsState) (current : GFXSettings) : GFXSettings :=
  restoreOwnedSettings snapshot current
    |> applyGpu snapshot.quality.gpu
    |> applyCpu snapshot.quality.cpu
    |> applyVram snapshot.quality.vram
    |> applyRam snapshot.quality.ram
    |> applyOverdraw (effectiveOverdrawQuality snapshot)
    |> applyEffects (effectiveEffectsQuality snapshot)

/-- A composition does not depend on the settings it is made over. -/
theorem composition_congr {s s' : AdaptiveGraphicsState} (ho : s.original = s'.original)
    (hq : s.quality = s'.quality) (hd : s.fixedOverdrawQuality = s'.fixedOverdrawQuality)
    (he : s.fixedEffectsQuality = s'.fixedEffectsQuality) (current current' : GFXSettings) :
    composition s current = composition s' current' := by
  unfold composition effectiveOverdrawQuality effectiveEffectsQuality
  rw [restoreOwnedSettings_eq, restoreOwnedSettings_eq, userSettings_congr ho, hq, hd, he]

/-! ## 2. Writing and reading back -/

/-- The engine: the live settings, and which fields of each write to come it will store.  The
setters change nothing else. -/
structure Engine where
  settings : GFXSettings
  stored : ℕ → (Σ k, GFXField k) → Bool

/-- `SetNativeSettings` and `SetScriptSettings`. -/
def Engine.write (engine : Engine) (requested : GFXSettings) : Engine where
  settings f := if engine.stored 0 f then requested f else engine.settings f
  stored n := engine.stored (n + 1)

theorem Engine.write_settings (engine : Engine) (requested : GFXSettings) (f : Σ k, GFXField k) :
    (engine.write requested).settings f = requested f ∨
      (engine.write requested).settings f = engine.settings f := by
  simp only [Engine.write]
  split
  · exact .inl rfl
  · exact .inr rfl

/-- A snapshot and the engine it is about. -/
structure Session where
  snapshot : AdaptiveGraphicsState
  engine : Engine

/-- `GetCurrentGFXSettings`. -/
abbrev Session.live (s : Session) : GFXSettings := s.engine.settings

/-- `if (!Snapshot.bOriginalCaptured) CaptureOriginal(Snapshot, Current)`. -/
def Session.captured (s : Session) : AdaptiveGraphicsState :=
  if s.snapshot.originalCaptured then s.snapshot else captureOriginal s.snapshot s.live

/-- `SetQualityRestoreDebt`. -/
def setQualityRestoreDebt (snapshot : AdaptiveGraphicsState) (quality : Qualities) :
    AdaptiveGraphicsState :=
  { snapshot with
    restoreQuality := quality
    qualityRestorePending := true
    qualityStateKnown := false }

/-- `ClearQualityRestoreDebt`. -/
def clearQualityRestoreDebt (snapshot : AdaptiveGraphicsState) : AdaptiveGraphicsState :=
  { snapshot with qualityRestorePending := false, qualityStateKnown := true }

/-- A quality that a command may ask for. -/
def qualityInRange (quality : ℤ) : Bool := !(quality < 10 || 100 < quality)

/-- The check at the start of `ApplyQualityComposition`. -/
def Qualities.inRange (q : Qualities) : Bool :=
  qualityInRange q.gpu && qualityInRange q.cpu && qualityInRange q.vram && qualityInRange q.ram &&
    qualityInRange q.overdraw && qualityInRange q.effects

/-- `ApplyQualityComposition`. -/
def applyQualityComposition (quality : Qualities) (s : Session) : Bool × Session :=
  if !quality.inRange then (false, s) else
  let snapshot := { s.captured with quality := quality }
  let requested := composition snapshot s.live
  let engine := s.engine.write requested
  (readbackMatches engine.settings requested, ⟨snapshot, engine⟩)

/-- `ApplyQualityRestoreDebt`. -/
def applyQualityRestoreDebt (s : Session) : Bool × Session :=
  if s.snapshot.qualityRestorePending then applyQualityComposition s.snapshot.restoreQuality s
  else (false, s)

/-- The `if` chain of `ApplyResource`; it has no branch for a resource it does not know. -/
def withResource (snapshot : AdaptiveGraphicsState) (resource : Bytes) (quality : ℤ) :
    Option AdaptiveGraphicsState :=
  let q := snapshot.quality
  if sameText resource (ascii "recover") then
    some { snapshot with quality :=
      ⟨max q.gpu quality, max q.cpu quality, max q.vram quality, max q.ram quality,
        max q.overdraw quality, max q.effects quality⟩ }
  else if sameText resource (ascii "gpu") then
    some { snapshot with quality := { q with gpu := quality } }
  else if sameText resource (ascii "cpu") then
    some { snapshot with quality := { q with cpu := quality } }
  else if sameText resource (ascii "vram") then
    some { snapshot with quality := { q with vram := quality } }
  else if sameText resource (ascii "ram") then
    some { snapshot with quality := { q with ram := quality } }
  else if sameText resource (ascii "overdraw") then
    some { snapshot with quality := { q with overdraw := quality } }
  else if sameText resource (ascii "effects") then
    some { snapshot with quality := { q with effects := quality } }
  else if sameText resource (ascii "mixed") then
    some { snapshot with quality :=
      { q with gpu := quality, cpu := quality, vram := quality, ram := quality } }
  else if sameText resource (ascii "fixed") then
    some { snapshot with fixedOverdrawQuality := quality, fixedEffectsQuality := quality }
  else none

/-- `ApplyResource`. -/
def applyResource (resource : Bytes) (quality : ℤ) (s : Session) : Bool × Session :=
  if !qualityInRange quality then (false, s) else
  let previous := s.captured
  match withResource previous resource quality with
  | none => (false, ⟨previous, s.engine⟩)
  | some snapshot =>
    let requested := composition snapshot s.live
    let engine := s.engine.write requested
    if readbackMatches engine.settings requested then
      (true, ⟨{ snapshot with qualityStateKnown := true }, engine⟩)
    else
      -- Back to the previous qualities, over whatever the engine stored.
      let requested := composition previous engine.settings
      let engine := engine.write requested
      if readbackMatches engine.settings requested then
        (false, ⟨{ previous with qualityStateKnown := true }, engine⟩)
      else (false, ⟨setQualityRestoreDebt previous previous.quality, engine⟩)

theorem withResource_frame {p snapshot : AdaptiveGraphicsState} {resource : Bytes} {quality : ℤ}
    (h : withResource p resource quality = some snapshot) :
    ∃ q d e, snapshot =
      { p with quality := q, fixedOverdrawQuality := d, fixedEffectsQuality := e } := by
  unfold withResource at h
  simp only at h
  split_ifs at h
  all_goals (obtain rfl := Option.some_inj.mp h; exact ⟨_, _, _, rfl⟩)

/-- **What `ApplyResource` can do.**  It refuses; or it writes the new composition and that reads
back; or it writes the previous one over what was stored, and that reads back or is owed. -/
theorem applyResource_cases (resource : Bytes) (quality : ℤ) (s : Session) :
    (qualityInRange quality = false ∧ applyResource resource quality s = (false, s)) ∨
    (withResource s.captured resource quality = none ∧
      applyResource resource quality s = (false, ⟨s.captured, s.engine⟩)) ∨
    ∃ snapshot engine rolled, qualityInRange quality = true ∧
      withResource s.captured resource quality = some snapshot ∧
      engine = s.engine.write (composition snapshot s.live) ∧
      rolled = engine.write (composition s.captured engine.settings) ∧
      ((readbackMatches engine.settings (composition snapshot s.live) = true ∧
          applyResource resource quality s =
            (true, ⟨{ snapshot with qualityStateKnown := true }, engine⟩)) ∨
        (readbackMatches rolled.settings (composition s.captured engine.settings) = true ∧
          applyResource resource quality s =
            (false, ⟨{ s.captured with qualityStateKnown := true }, rolled⟩)) ∨
        applyResource resource quality s =
          (false, ⟨setQualityRestoreDebt s.captured s.captured.quality, rolled⟩)) := by
  unfold applyResource
  cases hrange : qualityInRange quality with
  | false => exact .inl ⟨rfl, rfl⟩
  | true =>
    refine .inr ?_
    cases hwith : withResource s.captured resource quality with
    | none => exact .inl ⟨rfl, by simp [hwith]⟩
    | some snapshot =>
      refine .inr ⟨snapshot, _, _, rfl, rfl, rfl, rfl, ?_⟩
      simp only [Bool.not_true, Bool.false_eq_true, if_false, hwith]
      split
      · exact .inl ⟨‹_›, rfl⟩
      · split
        · exact .inr (.inl ⟨‹_›, rfl⟩)
        · exact .inr (.inr rfl)

def fixedSessionEffectsQuality : ℤ := 50

/-- `ApplyFixedSessionEffects`. -/
def applyFixedSessionEffects (s : Session) : Bool × Session :=
  applyResource (ascii "fixed") fixedSessionEffectsQuality s

/-- `RestoreOriginal`. -/
def restoreOriginal (s : Session) : Bool × Session :=
  if !s.snapshot.originalCaptured then
    (true, { s with snapshot := { s.snapshot with originalRestorePending := false } })
  else
    let requested := restoreOwnedSettings s.snapshot s.live
    let engine := s.engine.write requested
    if !readbackMatches engine.settings requested then
      (false, ⟨{ s.snapshot with originalRestorePending := true }, engine⟩)
    else
      (true, ⟨clearQualityRestoreDebt { s.snapshot with
        quality := .full
        fixedOverdrawQuality := 100
        fixedEffectsQuality := 100
        originalCaptured := false
        originalRestorePending := false }, engine⟩)

/-- **What `RestoreOriginal` can do.**  Nothing, without a capture; or it writes the user's
settings, and that stays owed or ends the capture. -/
theorem restoreOriginal_cases (s : Session) :
    (s.snapshot.originalCaptured = false ∧ restoreOriginal s =
      (true, { s with snapshot := { s.snapshot with originalRestorePending := false } })) ∨
    ∃ engine, s.snapshot.originalCaptured = true ∧
      engine = s.engine.write s.snapshot.userSettings ∧
      ((readbackMatches engine.settings s.snapshot.userSettings = false ∧ restoreOriginal s =
          (false, ⟨{ s.snapshot with originalRestorePending := true }, engine⟩)) ∨
        (readbackMatches engine.settings s.snapshot.userSettings = true ∧ restoreOriginal s =
          (true, ⟨clearQualityRestoreDebt { s.snapshot with
            quality := .full
            fixedOverdrawQuality := 100
            fixedEffectsQuality := 100
            originalCaptured := false
            originalRestorePending := false }, engine⟩))) := by
  unfold restoreOriginal
  cases hcap : s.snapshot.originalCaptured with
  | false => exact .inl ⟨rfl, by simp [hcap]⟩
  | true =>
    refine .inr ⟨_, rfl, rfl, ?_⟩
    simp only [Bool.not_true, Bool.false_eq_true, if_false, restoreOwnedSettings_eq]
    cases hread : readbackMatches (s.engine.write s.snapshot.userSettings).settings
      s.snapshot.userSettings with
    | false => exact .inl ⟨rfl, by simp⟩
    | true => exact .inr ⟨rfl, by simp⟩

end Kf2Optimizer.Graphics
