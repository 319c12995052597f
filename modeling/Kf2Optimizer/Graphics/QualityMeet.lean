/-
# A composition is a meet

The appliers of the live graphics actuator never set a field outright: each of their lines caps
one setting, from above or from below, and every setting is capped from one side only
(`Change.Proper`).  Over exact numbers a composition is therefore the meet of the user's settings
with the caps of the six qualities (`applied_eq`), and a lower quality has the stronger caps
(`harder`).  From the two follows what a composition may be relied on for: it can be made again,
in any order of the appliers, it takes nothing below what it would be at a lower quality, and it
never asks for more than the user did.

The lines are stated over any `float`; over `Float32` they are the appliers (`composition_eq`).
-/
import Kf2Optimizer.Graphics.AdaptiveGraphics
import Kf2Optimizer.Optimizer.Quality
import Kf2Optimizer.Lib.Limits
import Mathlib.Data.Rat.Cast.Order
import Mathlib.Tactic.NormNum.OfScientific

namespace Kf2Optimizer.Graphics

open Tables Limits Optimizer

/-! ## 1. The lines of the appliers -/

/-- What the appliers ask of UnrealScript's `float`. -/
class UnrealFloat (F : Type) extends OfScientific F where
  ofInt : ℤ → F
  div : F → F → F
  fMin : F → F → F
  fMax : F → F → F

instance : UnrealFloat Float32 where
  ofInt := Float32.ofInt
  div a b := a / b
  fMin := Graphics.fMin
  fMax := Graphics.fMax

/-- Exact numbers. -/
instance : UnrealFloat ℚ where
  ofInt z := z
  div a b := a / b
  fMin a b := if a ≤ b then a else b
  fMax a b := if b ≤ a then a else b

/-- `Kind.Value`, over any `float`. -/
abbrev Value (F : Type) : Kind → Type
  | .int => ℤ
  | .float => F
  | .bool => Bool

/-- A line of an applier. -/
inductive Change (F : Type)
  | lower (f : GFXField .int) (v : ℤ)
  | raise (f : GFXField .int) (v : ℤ)
  | fLower (f : GFXField .float) (v : F)
  | fRaise (f : GFXField .float) (v : F)
  | allow (f : GFXField .bool) (b : Bool)

section Appliers
variable {F : Type} [UnrealFloat F]

/-- `float(quality) / d`. -/
def exactFraction (quality : ℤ) (d : ℕ) : F := UnrealFloat.div (UnrealFloat.ofInt quality)
  (UnrealFloat.ofInt d)

/-- `if (Quality <= bound) { ... }`. -/
def changesUpTo (quality bound : ℤ) (changes : List (Change F)) : List (Change F) :=
  if quality ≤ bound then changes else []

/-- `ShadowDensity` of `ApplyGpu`. -/
def shadowDensity (quality : ℤ) : F :=
  if 90 ≤ quality then 2.25
  else if 80 ≤ quality then 2.0
  else if 70 ≤ quality then 1.75
  else if 60 ≤ quality then 1.5
  else if 40 ≤ quality then 1.25
  else 1.0

/-- `ShadowDistance` of `ApplyGpu`. -/
def shadowDistance (quality : ℤ) : F :=
  if 90 ≤ quality then 1.0
  else if 80 ≤ quality then 0.95
  else if 70 ≤ quality then 0.9
  else if 60 ≤ quality then 0.85
  else if 40 ≤ quality then 0.8
  else 0.75

/-- `KinematicScale` of `ApplyCpu`. -/
def kinematicScale (quality : ℤ) : F :=
  if 90 ≤ quality then 1.1
  else if 80 ≤ quality then 1.2
  else if 70 ≤ quality then 1.3
  else if 60 ≤ quality then 1.5
  else if 50 ≤ quality then 1.75
  else if 40 ≤ quality then 2.0
  else if 30 ≤ quality then 2.3
  else 3.0

/-- `BloomQuality` in `ApplyGpu`. -/
def bloomLimit (quality : ℤ) : ℤ := if 90 ≤ quality then 5 else if 70 ≤ quality then 4 else 3

/-- `ParticleLodBias` of `ApplyOverdraw`. -/
def overdrawBias (quality : ℤ) : ℤ :=
  if 90 ≤ quality then 0 else if 70 ≤ quality then 1 else if 50 ≤ quality then 2 else 3

/-- `ParticleLodBias` of `ApplyEffects`. -/
def effectsBias (quality : ℤ) : ℤ :=
  if 80 ≤ quality then 1 else if 60 ≤ quality then 2 else if 40 ≤ quality then 3
  else if 20 ≤ quality then 4 else 5

/-- The lines of `ApplyGpu`. -/
def gpuChanges (quality : ℤ) : List (Change F) :=
  if 100 ≤ quality then [] else
  List.flatten
    [[.lower .maxWholeSceneDominantShadowResolution (gpuTier quality).shadowResolution,
      .lower .maxShadowResolution (gpuTier quality).shadowResolution,
      .fLower .shadowTexelsPerPixel (shadowDensity quality),
      .raise .shadowFadeResolution (gpuTier quality).shadowFadeResolution,
      .raise .minShadowResolution (gpuTier quality).minShadowResolution,
      .fLower .globalShadowDistanceScale (shadowDistance quality),
      .lower .bloomQuality (bloomLimit quality),
      .lower .motionBlurQuality (gpuTier quality).motionBlurQuality,
      .lower .depthOfFieldQuality (gpuTier quality).depthOfFieldQuality,
      .lower .distanceFogQuality (gpuTier quality).distanceFogQuality],
      changesUpTo quality 80 [.allow .allowScreenSpaceReflections false],
      changesUpTo quality 70
        [.allow .hbao false, .allow .allowSubsurfaceScattering false,
          .allow .dropParticleDistortion true],
      changesUpTo quality 60
        [.allow .depthOfField false, .allow .allowLightShafts false,
          .allow .filteredDistortion false],
      changesUpTo quality 50
        [.allow .allowLightCones false, .allow .allowLensFlares false,
          .allow .allowExplosionLights false, .allow .allowSprayActorLights false,
          .allow .allowPilotLights false],
      changesUpTo quality 40 [.allow .distortion false],
      changesUpTo quality 30
        [.allow .ambientOcclusion false, .allow .allowForegroundPreshadows false],
      changesUpTo quality 20
        [.allow .bloom false, .allow .allowWholeSceneDominantShadows false,
          .allow .allowPerObjectShadows false],
      changesUpTo quality 10 [.allow .allowDynamicShadows false]]

/-- The lines of `ApplyOverdraw`. -/
def overdrawChanges (quality : ℤ) : List (Change F) :=
  if 100 ≤ quality then [] else
  List.flatten
    [[.raise .particleLODBias (overdrawBias quality),
      .lower .maxImpactEffectDecals (max 8 (quality.tdiv 4)),
      .lower .maxExplosionDecals (max 8 (quality.tdiv 6)),
      .lower .maxBloodEffects (max 12 (quality.tdiv 3)),
      .lower .maxGoreEffects (max 8 (quality.tdiv 8)),
      .lower .maxPersistentSplatsPerFrame (max 25 quality),
      .lower .maxBodyWoundDecals (max 2 (quality.tdiv 20))],
      changesUpTo quality 90 [.allow .dropParticleDistortion true],
      changesUpTo quality 70 [.allow .filteredDistortion false],
      changesUpTo quality 50 [.allow .allowSecondaryBloodEffects false],
      changesUpTo quality 40 [.allow .distortion false],
      changesUpTo quality 30 [.allow .allowBloodSplatterDecals false]]

/-- The lines of `ApplyEffects`. -/
def effectsChanges (quality : ℤ) : List (Change F) :=
  if 100 ≤ quality then [] else
  List.flatten
    [[.raise .particleLODBias (effectsBias quality),
      .fLower .emitterPoolScale (UnrealFloat.fMax 0.15 (exactFraction quality 100)),
      .fLower .shellEjectLifetime (UnrealFloat.fMax 1.0 (exactFraction quality 5)),
      .fLower .goreFXLifetimeMultiplier (UnrealFloat.fMax 0.2 (exactFraction quality 100)),
      .fLower .destructionLifetimeScale (UnrealFloat.fMax 0.2 (exactFraction quality 100)),
      .lower .maxImpactEffectDecals (max 1 (quality.tdiv 10)),
      .lower .maxExplosionDecals (max 1 (quality.tdiv 10)),
      .lower .maxBloodEffects (max 2 (quality.tdiv 5)),
      .lower .maxGoreEffects (max 2 (quality.tdiv 10)),
      .lower .maxPersistentSplatsPerFrame (max 5 (quality.tdiv 2)),
      .lower .maxBodyWoundDecals (max 0 (quality.tdiv 25))],
      changesUpTo quality 80 [.allow .dropParticleDistortion true],
      changesUpTo quality 60
        [.allow .filteredDistortion false, .allow .allowSecondaryBloodEffects false],
      changesUpTo quality 40 [.allow .distortion false, .allow .allowBloodSplatterDecals false],
      changesUpTo quality 20
        [.allow .allowExplosionLights false, .allow .allowSprayActorLights false]]

/-- The lines of `ApplyCpu`. -/
def cpuChanges (quality : ℤ) : List (Change F) :=
  if 100 ≤ quality then [] else
  List.flatten
    [[.lower .detailMode (cpuTier quality).1,
      .raise .skeletalMeshLODBias (cpuTier quality).2.1,
      .fRaise .kinematicUpdateDistFactorScale (kinematicScale quality),
      .raise .particleLODBias (cpuTier quality).2.1],
      changesUpTo quality 80 [.allow .shouldCorpseCollideWithDeadAfterSleep false],
      changesUpTo quality 60
        [.allow .allowLightFunctions false, .allow .shouldCorpseCollideWithDead false],
      changesUpTo quality 40 [.allow .shouldCorpseCollideWithLiving false]]

/-- The lines of `ApplyVram`. -/
def vramChanges (quality : ℤ) : List (Change F) :=
  if 100 ≤ quality then [] else
  [.raise .characterBias (vramTier quality).1, .raise .weapon1stBias (vramTier quality).1,
    .raise .weapon3rdBias (vramTier quality).1, .raise .environmentBias (vramTier quality).1,
    .raise .fxBias (vramTier quality).1, .raise .shadowmapBias (vramTier quality).1,
    .lower .maxAnisotropy (vramTier quality).2]

/-- The lines of `ApplyRam`. -/
def ramChanges (quality : ℤ) : List (Change F) :=
  if 100 ≤ quality then [] else
  List.flatten
    [[.fLower .emitterPoolScale (UnrealFloat.fMax 0.25 (exactFraction quality 100)),
      .fLower .shellEjectLifetime (UnrealFloat.fMax 2.0 (exactFraction quality 5)),
      .fLower .goreFXLifetimeMultiplier (UnrealFloat.fMax 0.5 (exactFraction quality 100)),
      .lower .maxImpactEffectDecals (max 8 (quality.tdiv 4)),
      .lower .maxExplosionDecals (max 8 (quality.tdiv 6)),
      .lower .maxBloodEffects (max 12 (quality.tdiv 3)),
      .lower .maxGoreEffects (max 8 (quality.tdiv 8)),
      .lower .maxPersistentSplatsPerFrame (max 25 quality),
      .lower .maxBodyWoundDecals (max 2 (quality.tdiv 20)),
      .fLower .destructionLifetimeScale (UnrealFloat.fMax 0.25 (exactFraction quality 100))],
      changesUpTo quality 50 [.allow .allowSecondaryBloodEffects false],
      changesUpTo quality 30 [.allow .allowBloodSplatterDecals false]]

def changes : QualityGroup → ℤ → List (Change F)
  | .gpu => gpuChanges
  | .cpu => cpuChanges
  | .vram => vramChanges
  | .ram => ramChanges
  | .overdraw => overdrawChanges
  | .effects => effectsChanges

/-! ## 2. Compositions

The settings are a record over some fields, which those of the appliers are `owned` among. -/

variable {Field : Kind → Type} [DecidableEq (Σ k, Field k)] (owned : ∀ k, GFXField k → Field k)

def Change.apply (requested : Record (Value F) Field) : Change F → Record (Value F) Field
  | .lower f v => requested.set (owned _ f) (min (requested ⟨.int, owned _ f⟩) v)
  | .raise f v => requested.set (owned _ f) (max (requested ⟨.int, owned _ f⟩) v)
  | .fLower f v =>
      requested.set (owned _ f) (UnrealFloat.fMin (requested ⟨.float, owned _ f⟩) v)
  | .fRaise f v =>
      requested.set (owned _ f) (UnrealFloat.fMax (requested ⟨.float, owned _ f⟩) v)
  | .allow f b => requested.set (owned _ f) b

/-- The applier of a group. -/
def applyGroup (g : QualityGroup) (quality : ℤ) (requested : Record (Value F) Field) :
    Record (Value F) Field :=
  (changes g quality).foldl (Change.apply owned) requested

/-- The appliers, one after the other. -/
def applied (quality : QualityGroup → ℤ) (order : List QualityGroup)
    (requested : Record (Value F) Field) : Record (Value F) Field :=
  order.foldl (fun r g => applyGroup owned g (quality g) r) requested

/-- The lines of `CopyOwnedSettings`, out of the whole record. -/
def copiedFrom : Table OriginalField Field :=
  copied.map fun line => ⟨line.1, line.2.1, owned _ line.2.2⟩

/-- The lines of `RestoreOwnedSettings`, into the whole record. -/
def restoredInto : Table Field OriginalField :=
  restored.map fun line => ⟨line.1, owned _ line.2.1, line.2.2⟩

/-- `CopyOwnedSettings`. -/
def copyOwned (current : Record (Value F) Field) (original : Record (Value F) OriginalField) :
    Record (Value F) OriginalField := assign (copiedFrom owned) current original

/-- `RestoreOwnedSettings`. -/
def restoreOwned (original : Record (Value F) OriginalField) (requested : Record (Value F) Field) :
    Record (Value F) Field := assign (restoredInto owned) original requested

/-- The user's settings over the current ones, then the appliers. -/
def composed (original : Record (Value F) OriginalField) (quality : QualityGroup → ℤ)
    (order : List QualityGroup) (current : Record (Value F) Field) : Record (Value F) Field :=
  applied owned quality order (restoreOwned owned original current)

end Appliers

/-! ## 3. The appliers of the source -/

/-- A line, over the settings themselves. -/
abbrev Change.run (r : GFXSettings) (c : Change Float32) : GFXSettings :=
  c.apply (F := Float32) (fun _ f => f) r

theorem run_lower (f : GFXField .int) (v : ℤ) (r : GFXSettings) :
    Change.run r (.lower f v) = lower f v r := rfl

theorem run_raise (f : GFXField .int) (v : ℤ) (r : GFXSettings) :
    Change.run r (.raise f v) = raise f v r := rfl

theorem run_fLower (f : GFXField .float) (v : Float32) (r : GFXSettings) :
    Change.run r (.fLower f v) = fLower f v r := rfl

theorem run_fRaise (f : GFXField .float) (v : Float32) (r : GFXSettings) :
    Change.run r (.fRaise f v) = fRaise f v r := rfl

theorem run_allow (f : GFXField .bool) (b : Bool) (r : GFXSettings) :
    Change.run r (.allow f b) = allow f b r := rfl

theorem run_changesUpTo (quality bound : ℤ) (cs : List (Change Float32)) (r : GFXSettings) :
    (changesUpTo quality bound cs).foldl Change.run r =
      upTo quality bound (fun r => cs.foldl Change.run r) r := by
  unfold changesUpTo upTo
  split <;> rfl

theorem gpuTier_shadowDensity (quality : ℤ) :
    (gpuTier quality).shadowDensity = shadowDensity quality := by
  unfold gpuTier shadowDensity
  split_ifs <;> rfl

theorem gpuTier_shadowDistance (quality : ℤ) :
    (gpuTier quality).shadowDistance = shadowDistance quality := by
  unfold gpuTier shadowDistance
  split_ifs <;> rfl

theorem cpuTier_kinematicScale (quality : ℤ) : (cpuTier quality).2.2 = kinematicScale quality := by
  unfold cpuTier kinematicScale
  split_ifs <;> rfl

theorem applyGpu_eq (quality : ℤ) (r : GFXSettings) :
    applyGpu quality r = (gpuChanges quality).foldl Change.run r := by
  unfold gpuChanges applyGpu
  by_cases h : 100 ≤ quality
  · simp only [if_pos h, List.foldl_nil]
  · simp only [if_neg h, List.foldl_flatten, List.foldl_cons, List.foldl_nil, run_changesUpTo,
      run_lower, run_raise, run_fLower, run_allow, ← gpuTier_shadowDensity,
      ← gpuTier_shadowDistance, ← bloomLimit.eq_1]

theorem applyCpu_eq (quality : ℤ) (r : GFXSettings) :
    applyCpu quality r = (cpuChanges quality).foldl Change.run r := by
  unfold cpuChanges applyCpu
  by_cases h : 100 ≤ quality
  · simp only [if_pos h, List.foldl_nil]
  · simp only [if_neg h, List.foldl_flatten, List.foldl_cons, List.foldl_nil, run_changesUpTo,
      run_lower, run_raise, run_fRaise, run_allow, ← cpuTier_kinematicScale]

theorem applyVram_eq (quality : ℤ) (r : GFXSettings) :
    applyVram quality r = (vramChanges quality).foldl Change.run r := by
  unfold vramChanges applyVram
  by_cases h : 100 ≤ quality
  · simp only [if_pos h, List.foldl_nil]
  · simp only [if_neg h, List.foldl_cons, List.foldl_nil, run_lower, run_raise]

theorem applyRam_eq (quality : ℤ) (r : GFXSettings) :
    applyRam quality r = (ramChanges quality).foldl Change.run r := by
  unfold ramChanges applyRam
  by_cases h : 100 ≤ quality
  · simp only [if_pos h, List.foldl_nil]
  · simp only [if_neg h, List.foldl_flatten, List.foldl_cons, List.foldl_nil, run_changesUpTo,
      run_lower, run_fLower, run_allow]
    rfl

theorem applyOverdraw_eq (quality : ℤ) (r : GFXSettings) :
    applyOverdraw quality r = (overdrawChanges quality).foldl Change.run r := by
  unfold overdrawChanges applyOverdraw
  by_cases h : 100 ≤ quality
  · simp only [if_pos h, List.foldl_nil]
  · simp only [if_neg h, List.foldl_flatten, List.foldl_cons, List.foldl_nil, run_changesUpTo,
      run_lower, run_raise, run_allow, ← overdrawBias.eq_1]

theorem applyEffects_eq (quality : ℤ) (r : GFXSettings) :
    applyEffects quality r = (effectsChanges quality).foldl Change.run r := by
  unfold effectsChanges applyEffects
  by_cases h : 100 ≤ quality
  · simp only [if_pos h, List.foldl_nil]
  · simp only [if_neg h, List.foldl_flatten, List.foldl_cons, List.foldl_nil, run_changesUpTo,
      run_lower, run_raise, run_fLower, run_allow, ← effectsBias.eq_1]
    rfl
/-- The qualities of a snapshot's composition. -/
def effectiveQuality (snapshot : AdaptiveGraphicsState) : QualityGroup → ℤ
  | .gpu => snapshot.quality.gpu
  | .cpu => snapshot.quality.cpu
  | .vram => snapshot.quality.vram
  | .ram => snapshot.quality.ram
  | .overdraw => effectiveOverdrawQuality snapshot
  | .effects => effectiveEffectsQuality snapshot

/-- The order in which the source runs the appliers. -/
def sourceOrder : List QualityGroup := [.gpu, .cpu, .vram, .ram, .overdraw, .effects]

/-- **Over `Float32` a composition is the source's.** -/
theorem composition_eq (snapshot : AdaptiveGraphicsState) (current : GFXSettings) :
    composition snapshot current =
      composed (F := Float32) (fun _ f => f) snapshot.original (effectiveQuality snapshot)
        sourceOrder current := by
  have hrestore : restoreOwnedSettings snapshot current =
      restoreOwned (F := Float32) (fun _ f => f) snapshot.original current := by
    unfold restoreOwned restoredInto restoreOwnedSettings
    rw [List.map_id'']
    rintro ⟨k, f, g⟩
    rfl
  unfold composition composed applied sourceOrder
  simp only [hrestore, applyGpu_eq, applyCpu_eq, applyVram_eq, applyRam_eq, applyOverdraw_eq,
    applyEffects_eq, List.foldl_cons, List.foldl_nil]
  rfl

/-! ## 4. Every line is a cap -/

/-- The side from which the appliers cap a setting. -/
inductive Reduction
  | down
  | up
deriving DecidableEq

def GFXField.reduction {k : Kind} : GFXField k → Reduction
  | .shadowFadeResolution => .up
  | .minShadowResolution => .up
  | .dropParticleDistortion => .up
  | .skeletalMeshLODBias => .up
  | .kinematicUpdateDistFactorScale => .up
  | .particleLODBias => .up
  | .characterBias => .up
  | .weapon1stBias => .up
  | .weapon3rdBias => .up
  | .environmentBias => .up
  | .fxBias => .up
  | .shadowmapBias => .up
  | _ => .down

/-- The fields of `GFXSettings`: those of the appliers, and `Other` ones. -/
abbrev AllFields (Other : Kind → Type) (k : Kind) : Type := GFXField k ⊕ Other k

/-- The fields of the appliers, among all. -/
abbrev ours (Other : Kind → Type) (k : Kind) : GFXField k → AllFields Other k := .inl

/-- The whole of the settings, in exact numbers. -/
abbrev ExactSettings (Other : Kind → Type) : Type := Record (Value ℚ) (AllFields Other)

@[reducible] noncomputable def kindLattice : (k : Kind) → Lattice (Value ℚ k)
  | .int => inferInstanceAs (Lattice ℤ)
  | .float => inferInstanceAs (Lattice ℚ)
  | .bool => inferInstanceAs (Lattice Bool)

/-- Values of a kind, the more reduced one the smaller. -/
@[reducible] noncomputable def reducedLattice (k : Kind) : Reduction → SemilatticeInf (Value ℚ k)
  | .down => (kindLattice k).toSemilatticeInf
  | .up => @OrderDual.instSemilatticeInf _ (kindLattice k).toSemilatticeSup

section Caps
variable {Other : Kind → Type}

def AllFields.reduction {k : Kind} : AllFields Other k → Reduction
  | .inl f => f.reduction
  | .inr _ => .down

/-- A field's values, ordered by what they cost. -/
def Level (f : Σ k, AllFields Other k) : Type := Value ℚ f.1

noncomputable instance (f : Σ k, AllFields Other k) : SemilatticeInf (Level f) :=
  reducedLattice f.1 f.2.reduction

/-- The cap a line stands for. -/
def Change.limit : Change ℚ → Limit (@Level Other)
  | .lower f v => ⟨⟨.int, .inl f⟩, v⟩
  | .raise f v => ⟨⟨.int, .inl f⟩, v⟩
  | .fLower f v => ⟨⟨.float, .inl f⟩, v⟩
  | .fRaise f v => ⟨⟨.float, .inl f⟩, v⟩
  | .allow f b => ⟨⟨.bool, .inl f⟩, b⟩

/-- The line caps its setting from that setting's side. -/
def Change.Proper : Change ℚ → Prop
  | .lower f _ => f.reduction = .down
  | .raise f _ => f.reduction = .up
  | .fLower f _ => f.reduction = .down
  | .fRaise f _ => f.reduction = .up
  | .allow f b => f.reduction = if b then .up else .down

theorem inf_down {k : Kind} {f : AllFields Other k} (h : f.reduction = .down)
    (a b : Level ⟨k, f⟩) : a ⊓ b = (kindLattice k).inf a b := by
  change (reducedLattice k f.reduction).inf a b = _
  rw [h]
  rfl

theorem inf_up {k : Kind} {f : AllFields Other k} (h : f.reduction = .up)
    (a b : Level ⟨k, f⟩) : a ⊓ b = (kindLattice k).sup a b := by
  change (reducedLattice k f.reduction).inf a b = _
  rw [h]
  rfl

theorem le_down {k : Kind} {f : AllFields Other k} (h : f.reduction = .down)
    {a b : Level ⟨k, f⟩} : a ≤ b ↔ (kindLattice k).le a b := by
  change (reducedLattice k f.reduction).le a b ↔ _
  rw [h]

theorem le_up {k : Kind} {f : AllFields Other k} (h : f.reduction = .up)
    {a b : Level ⟨k, f⟩} : a ≤ b ↔ (kindLattice k).le b a := by
  change (reducedLattice k f.reduction).le a b ↔ _
  rw [h]
  rfl

section Lines
variable [∀ k, DecidableEq (Other k)]

/-- **A line is a cap**, where it caps from the setting's side. -/
theorem Change.apply_eq {c : Change ℚ} (h : c.Proper) (r : ExactSettings Other) :
    c.apply (ours Other) r = impose (V := Level) r c.limit := by
  cases c with
  | lower f v =>
    exact congrArg (Function.update r _) (inf_down (f := .inl f) h (r ⟨.int, .inl f⟩) v).symm
  | raise f v =>
    exact congrArg (Function.update r _) (inf_up (f := .inl f) h (r ⟨.int, .inl f⟩) v).symm
  | fLower f v =>
    have hmin := inf_down (f := ours Other _ f) h (r ⟨.float, .inl f⟩) v
    exact congrArg (Function.update r _) ((min_def (α := ℚ) _ _).symm.trans hmin.symm)
  | fRaise f v =>
    have hmax := inf_up (f := ours Other _ f) h (r ⟨.float, .inl f⟩) v
    exact congrArg (Function.update r _) ((max_def' (α := ℚ) _ _).symm.trans hmax.symm)
  | allow f b =>
    refine congrArg (Function.update r _) ?_
    cases b with
    | false =>
      exact ((inf_down (f := .inl f) h (r ⟨.bool, .inl f⟩) false).trans (Bool.and_false _)).symm
    | true =>
      exact ((inf_up (f := .inl f) h (r ⟨.bool, .inl f⟩) true).trans (Bool.or_true _)).symm

theorem forall_mem_changesUpTo {p : Change ℚ → Prop} {quality bound : ℤ} {cs : List (Change ℚ)} :
    (∀ c ∈ changesUpTo quality bound cs, p c) ↔ quality ≤ bound → ∀ c ∈ cs, p c := by
  unfold changesUpTo
  split <;> simp_all

/-- Every line of the appliers caps its setting from that setting's side. -/
theorem proper_changes (g : QualityGroup) (quality : ℤ) :
    ∀ c ∈ (changes g quality : List (Change ℚ)), c.Proper := by
  by_cases h : 100 ≤ quality
  · cases g <;>
      simp [changes, gpuChanges, cpuChanges, vramChanges, ramChanges, overdrawChanges,
        effectsChanges, h]
  · cases g <;>
      simp [changes, gpuChanges, cpuChanges, vramChanges, ramChanges, overdrawChanges,
        effectsChanges, h, List.flatten_cons, forall_mem_changesUpTo, Change.Proper,
        GFXField.reduction, or_imp, forall_and]

/-- The caps of some lines. -/
abbrev limits (cs : List (Change ℚ)) : List (Limit (@Level Other)) := cs.map Change.limit

/-- The meet of settings with caps. -/
noncomputable def capped (ls : List (Limit (@Level Other))) (r : ExactSettings Other) :
    ExactSettings Other :=
  imposeAll (V := Level) ls r

theorem capped_cons (l : Limit (@Level Other)) (ls : List (Limit (@Level Other)))
    (r : ExactSettings Other) : capped (l :: ls) r = capped ls (impose (V := Level) r l) := rfl

theorem capped_append (ls ls' : List (Limit (@Level Other))) (r : ExactSettings Other) :
    capped (ls ++ ls') r = capped ls' (capped ls r) := imposeAll_append _ _ _

theorem foldl_apply_eq {cs : List (Change ℚ)} (h : ∀ c ∈ cs, c.Proper) (r : ExactSettings Other) :
    cs.foldl (Change.apply (ours Other)) r = capped (limits cs) r := by
  induction cs generalizing r with
  | nil => rfl
  | cons c cs ih =>
    obtain ⟨hc, hcs⟩ := List.forall_mem_cons.mp h
    calc (c :: cs).foldl (Change.apply (ours Other)) r
        = capped (limits cs) (c.apply (ours Other) r) := ih hcs _
      _ = capped (limits (c :: cs)) r := congrArg _ (Change.apply_eq hc r)

/-- **Appliers are caps.** -/
theorem applied_eq (quality : QualityGroup → ℤ) (order : List QualityGroup)
    (r : ExactSettings Other) :
    applied (ours Other) quality order r =
      capped (order.flatMap fun g => limits (changes g (quality g))) r := by
  induction order generalizing r with
  | nil => rfl
  | cons g order ih =>
    have hgroup : applyGroup (ours Other) g (quality g) r =
        capped (limits (changes g (quality g))) r := foldl_apply_eq (proper_changes g _) r
    calc applied (ours Other) quality (g :: order) r
        = applied (ours Other) quality order (applyGroup (ours Other) g (quality g) r) := rfl
      _ = capped ((g :: order).flatMap fun g => limits (changes g (quality g))) r := by
          rw [hgroup, ih, List.flatMap_cons, capped_append]

end Lines

/-! ## 5. A lower quality has the stronger caps -/

variable (Other) in
/-- The lines `cs` cap at least as strongly as `cs'`. -/
def Harder (cs cs' : List (Change ℚ)) : Prop :=
  Tighter (@limits Other cs) (limits cs')

namespace Harder

theorem nil {cs : List (Change ℚ)} : Harder Other cs [] := Tighter.nil _

variable {cs cs' : List (Change ℚ)} (h : Harder Other cs cs')

include h

theorem lower {f : GFXField .int} {v v' : ℤ} (hf : f.reduction = .down) (hv : v ≤ v') :
    Harder Other (.lower f v :: cs) (.lower f v' :: cs') :=
  Tighter.cons ((le_down (f := .inl f) hf).mpr hv) h

theorem raise {f : GFXField .int} {v v' : ℤ} (hf : f.reduction = .up) (hv : v' ≤ v) :
    Harder Other (.raise f v :: cs) (.raise f v' :: cs') :=
  Tighter.cons ((le_up (f := .inl f) hf).mpr hv) h

theorem fLower {f : GFXField .float} {v v' : ℚ} (hf : f.reduction = .down) (hv : v ≤ v') :
    Harder Other (.fLower f v :: cs) (.fLower f v' :: cs') :=
  Tighter.cons ((le_down (f := .inl f) hf).mpr hv) h

theorem fRaise {f : GFXField .float} {v v' : ℚ} (hf : f.reduction = .up) (hv : v' ≤ v) :
    Harder Other (.fRaise f v :: cs) (.fRaise f v' :: cs') :=
  Tighter.cons ((le_up (f := .inl f) hf).mpr hv) h

end Harder

/-- A block of lines that the lower quality runs too. -/
theorem Harder.upTo {q q' : ℤ} (hq : q ≤ q') (bound : ℤ) (cs : List (Change ℚ)) :
    Harder Other (changesUpTo q bound cs) (changesUpTo q' bound cs) := by
  unfold changesUpTo
  by_cases h : q' ≤ bound
  · rw [if_pos h, if_pos (hq.trans h)]
    exact Tighter.refl _
  · rw [if_neg h]
    exact .nil

/-- Block by block. -/
theorem Harder.flatten {css css' : List (List (Change ℚ))}
    (h : List.Forall₂ (Harder Other) css css') : Harder Other css.flatten css'.flatten := by
  induction h with
  | nil => exact .nil
  | cons hcs _ ih =>
    unfold Harder limits
    rw [List.flatten_cons, List.flatten_cons, List.map_append, List.map_append]
    exact Tighter.append hcs ih

section Tables
variable {q q' : ℤ} (h : q ≤ q')

include h

/-- A step of an `if` chain on the quality, where what comes below is at most its value. -/
theorem step_mono {β α : Type} [Preorder α] (g : β → α) {bound : ℤ} {top x y y' : β}
    (hx : g x ≤ g top) (hy : g y ≤ g y' ∧ g y ≤ g x) :
    g (if bound ≤ q then x else y) ≤ g (if bound ≤ q' then x else y') ∧
      g (if bound ≤ q then x else y) ≤ g top := by
  by_cases hq : bound ≤ q
  · rw [if_pos hq, if_pos (hq.trans h)]
    exact ⟨le_rfl, hx⟩
  · rw [if_neg hq]
    refine ⟨?_, hy.2.trans hx⟩
    split
    · exact hy.2
    · exact hy.1

/-- What `ApplyGpu` takes from its tier, the more reduced the smaller. -/
def GpuTier.limits (t : GpuTier) : (ℤ × ℤᵒᵈ × ℤᵒᵈ) × ℤ × ℤ × ℤ :=
  ((t.shadowResolution, .toDual t.shadowFadeResolution, .toDual t.minShadowResolution),
    t.motionBlurQuality, t.depthOfFieldQuality, t.distanceFogQuality)

theorem gpuTier_mono : (gpuTier q).limits ≤ (gpuTier q').limits :=
  (step_mono h GpuTier.limits le_rfl (step_mono h GpuTier.limits (by decide)
    (step_mono h GpuTier.limits (by decide) (step_mono h GpuTier.limits (by decide)
      (step_mono h GpuTier.limits (by decide) ⟨le_rfl, by decide⟩))))).1

/-- What `ApplyCpu` takes from its tier. -/
def cpuLimits (t : ℤ × ℤ × Float32) : ℤ × ℤᵒᵈ := (t.1, .toDual t.2.1)

theorem cpuTier_mono : cpuLimits (cpuTier q) ≤ cpuLimits (cpuTier q') :=
  (step_mono h cpuLimits le_rfl (step_mono h cpuLimits (by decide)
    (step_mono h cpuLimits (by decide) (step_mono h cpuLimits (by decide)
      (step_mono h cpuLimits (by decide) (step_mono h cpuLimits (by decide)
        (step_mono h cpuLimits (by decide) ⟨le_rfl, by decide⟩))))))).1

theorem vramTier_mono :
    (vramTier q').1 ≤ (vramTier q).1 ∧ (vramTier q).2 ≤ (vramTier q').2 := by
  unfold vramTier
  split_ifs <;> omega

theorem shadowDensity_mono : (shadowDensity q : ℚ) ≤ shadowDensity q' :=
  (step_mono h id le_rfl (step_mono h id (by norm_num) (step_mono h id (by norm_num)
    (step_mono h id (by norm_num) (step_mono h id (by norm_num) ⟨le_rfl, by norm_num⟩))))).1

theorem shadowDistance_mono : (shadowDistance q : ℚ) ≤ shadowDistance q' :=
  (step_mono h id le_rfl (step_mono h id (by norm_num) (step_mono h id (by norm_num)
    (step_mono h id (by norm_num) (step_mono h id (by norm_num) ⟨le_rfl, by norm_num⟩))))).1

theorem kinematicScale_anti : (kinematicScale q' : ℚ) ≤ kinematicScale q := by
  have hneg : -(kinematicScale q : ℚ) ≤ -kinematicScale q' :=
    (step_mono h Neg.neg le_rfl (step_mono h Neg.neg (by norm_num)
      (step_mono h Neg.neg (by norm_num) (step_mono h Neg.neg (by norm_num)
        (step_mono h Neg.neg (by norm_num) (step_mono h Neg.neg (by norm_num)
          (step_mono h Neg.neg (by norm_num) ⟨le_rfl, by norm_num⟩))))))).1
  exact neg_le_neg_iff.mp hneg

theorem max_tdiv_mono (least : ℤ) {d : ℤ} (hd : 0 < d) :
    max least (q.tdiv d) ≤ max least (q'.tdiv d) :=
  max_le_max_left least (Int.tdiv_le_tdiv hd h)

theorem bloomLimit_mono : bloomLimit q ≤ bloomLimit q' := by
  unfold bloomLimit
  split_ifs <;> omega

theorem overdrawBias_anti : overdrawBias q' ≤ overdrawBias q := by
  unfold overdrawBias
  split_ifs <;> omega

theorem effectsBias_anti : effectsBias q' ≤ effectsBias q := by
  unfold effectsBias
  split_ifs <;> omega

theorem exactFraction_mono (least : ℚ) (d : ℕ) :
    UnrealFloat.fMax least (exactFraction q d) ≤ UnrealFloat.fMax least (exactFraction q' d) := by
  have hfraction : (exactFraction q d : ℚ) ≤ exactFraction q' d :=
    div_le_div_of_nonneg_right (Int.cast_le.mpr h) (Nat.cast_nonneg d)
  calc UnrealFloat.fMax least (exactFraction q d)
      = max least (exactFraction q d) := (max_def' _ _).symm
    _ ≤ max least (exactFraction q' d) := max_le_max_left least hfraction
    _ = UnrealFloat.fMax least (exactFraction q' d) := max_def' _ _

end Tables

/-! One lemma for each applier: its blocks of lines, the first with the values of its tables. -/

section Groups
variable {q q' : ℤ} (h : q ≤ q')

include h

theorem gpuChanges_harder : Harder Other (gpuChanges q) (gpuChanges q') := by
  unfold gpuChanges
  by_cases hfull : 100 ≤ q'
  · rw [if_pos hfull]
    exact .nil
  rw [if_neg hfull, if_neg fun hq => hfull (hq.trans h)]
  obtain ⟨⟨hresolution, hfade, hleast⟩, hblur, hfield, hfog⟩ := gpuTier_mono h
  refine .flatten (.cons ?_ ?_)
  · refine .lower ?_ rfl hresolution
    refine .lower ?_ rfl hresolution
    refine .fLower ?_ rfl (shadowDensity_mono h)
    refine .raise ?_ rfl hfade
    refine .raise ?_ rfl hleast
    refine .fLower ?_ rfl (shadowDistance_mono h)
    refine .lower ?_ rfl (bloomLimit_mono h)
    refine .lower ?_ rfl hblur
    refine .lower ?_ rfl hfield
    exact .lower .nil rfl hfog
  · repeat refine .cons (.upTo h _ _) ?_
    exact .nil

theorem cpuChanges_harder : Harder Other (cpuChanges q) (cpuChanges q') := by
  unfold cpuChanges
  by_cases hfull : 100 ≤ q'
  · rw [if_pos hfull]
    exact .nil
  rw [if_neg hfull, if_neg fun hq => hfull (hq.trans h)]
  obtain ⟨hmode, hbias⟩ := cpuTier_mono h
  refine .flatten (.cons ?_ ?_)
  · refine .lower ?_ rfl hmode
    refine .raise ?_ rfl hbias
    refine .fRaise ?_ rfl (kinematicScale_anti h)
    exact .raise .nil rfl hbias
  · repeat refine .cons (.upTo h _ _) ?_
    exact .nil

theorem vramChanges_harder : Harder Other (vramChanges q) (vramChanges q') := by
  unfold vramChanges
  by_cases hfull : 100 ≤ q'
  · rw [if_pos hfull]
    exact .nil
  rw [if_neg hfull, if_neg fun hq => hfull (hq.trans h)]
  obtain ⟨hbias, hanisotropy⟩ := vramTier_mono h
  iterate 6 refine .raise ?_ rfl hbias
  exact .lower .nil rfl hanisotropy

theorem ramChanges_harder : Harder Other (ramChanges q) (ramChanges q') := by
  unfold ramChanges
  by_cases hfull : 100 ≤ q'
  · rw [if_pos hfull]
    exact .nil
  rw [if_neg hfull, if_neg fun hq => hfull (hq.trans h)]
  refine .flatten (.cons ?_ ?_)
  · iterate 3 refine .fLower ?_ rfl (exactFraction_mono h _ _)
    iterate 4 refine .lower ?_ rfl (max_tdiv_mono h _ (by decide))
    refine .lower ?_ rfl (max_le_max_left 25 h)
    refine .lower ?_ rfl (max_tdiv_mono h _ (by decide))
    exact .fLower .nil rfl (exactFraction_mono h _ _)
  · repeat refine .cons (.upTo h _ _) ?_
    exact .nil

theorem overdrawChanges_harder : Harder Other (overdrawChanges q) (overdrawChanges q') := by
  unfold overdrawChanges
  by_cases hfull : 100 ≤ q'
  · rw [if_pos hfull]
    exact .nil
  rw [if_neg hfull, if_neg fun hq => hfull (hq.trans h)]
  refine .flatten (.cons ?_ ?_)
  · refine .raise ?_ rfl (overdrawBias_anti h)
    iterate 4 refine .lower ?_ rfl (max_tdiv_mono h _ (by decide))
    refine .lower ?_ rfl (max_le_max_left 25 h)
    exact .lower .nil rfl (max_tdiv_mono h _ (by decide))
  · repeat refine .cons (.upTo h _ _) ?_
    exact .nil

theorem effectsChanges_harder : Harder Other (effectsChanges q) (effectsChanges q') := by
  unfold effectsChanges
  by_cases hfull : 100 ≤ q'
  · rw [if_pos hfull]
    exact .nil
  rw [if_neg hfull, if_neg fun hq => hfull (hq.trans h)]
  refine .flatten (.cons ?_ ?_)
  · refine .raise ?_ rfl (effectsBias_anti h)
    iterate 4 refine .fLower ?_ rfl (exactFraction_mono h _ _)
    iterate 5 refine .lower ?_ rfl (max_tdiv_mono h _ (by decide))
    exact .lower .nil rfl (max_tdiv_mono h _ (by decide))
  · repeat refine .cons (.upTo h _ _) ?_
    exact .nil

/-- **A lower quality has the stronger caps.** -/
theorem harder (g : QualityGroup) : Harder Other (changes g q) (changes g q') := by
  cases g with
  | cpu => exact cpuChanges_harder h
  | gpu => exact gpuChanges_harder h
  | vram => exact vramChanges_harder h
  | ram => exact ramChanges_harder h
  | overdraw => exact overdrawChanges_harder h
  | effects => exact effectsChanges_harder h

end Groups

/-! ## 6. What a composition is -/

/-- `a` costs no more than `b` in the field. -/
def NoCostlier (f : Σ k, AllFields Other k) (a b : Value ℚ f.1) : Prop :=
  @LE.le (Level f) _ a b

/-- The caps of some qualities. -/
abbrev qualityLimits (quality : QualityGroup → ℤ) (order : List QualityGroup) :
    List (Limit (@Level Other)) := order.flatMap fun g => limits (changes g (quality g))

theorem targets_copiedFrom_nodup : (targets (copiedFrom (ours Other))).Nodup := by
  have htargets : targets (copiedFrom (ours Other)) = targets copied := by
    unfold targets copiedFrom
    rw [List.map_map]
    rfl
  rw [htargets]
  exact targets_copied_nodup

theorem targets_restoredInto_eq : targets (restoredInto (ours Other)) =
    (targets restored).map fun f => ⟨f.1, ours Other _ f.2⟩ := by
  unfold targets restoredInto
  rw [List.map_map, List.map_map]
  rfl

theorem targets_restoredInto_nodup :
    (targets (restoredInto (ours Other))).Nodup := by
  rw [targets_restoredInto_eq]
  refine targets_restored_nodup.map ?_
  rintro ⟨k, f⟩ ⟨k', f'⟩ heq
  cases heq
  rfl

variable [∀ k, DecidableEq (Other k)]

/-- What the user had comes back. -/
theorem restoreOwned_inl (user current : ExactSettings Other)
    (original : Record (Value ℚ) OriginalField) {k : Kind} (f : GFXField k) :
    restoreOwned (ours Other) (copyOwned (ours Other) user original) current ⟨k, .inl f⟩ =
      user ⟨k, .inl f⟩ := by
  obtain ⟨o, hline⟩ := exists_of_mem_targets (mem_targets_restored ⟨k, f⟩)
  have hrestored : ⟨k, .inl f, o⟩ ∈ restoredInto (ours Other) :=
    List.mem_map_of_mem hline
  rw [restored_eq] at hline
  obtain ⟨⟨k', o', f'⟩, hmem, heq⟩ := List.mem_map.mp hline
  cases heq
  have hcopied : ⟨k', o', .inl f'⟩ ∈ copiedFrom (ours Other) := List.mem_map_of_mem hmem
  calc restoreOwned (ours Other) (copyOwned (ours Other) user original) current ⟨k', .inl f'⟩
      = copyOwned (ours Other) user original ⟨k', o'⟩ :=
        assign_of_mem targets_restoredInto_nodup hrestored
    _ = user ⟨k', .inl f'⟩ := assign_of_mem targets_copiedFrom_nodup hcopied

/-- The rest is what it was. -/
theorem restoreOwned_inr (original : Record (Value ℚ) OriginalField)
    (current : ExactSettings Other) {k : Kind} (f : Other k) :
    restoreOwned (ours Other) original current ⟨k, .inr f⟩ = current ⟨k, .inr f⟩ := by
  refine assign_of_notMem ?_
  rw [targets_restoredInto_eq, List.mem_map]
  rintro ⟨g, -, heq⟩
  cases heq

/-- No cap is on a field of another owner. -/
theorem capped_inr {cs : List (Change ℚ)} {k : Kind} (f : Other k) (r : ExactSettings Other) :
    capped (limits cs) r ⟨k, .inr f⟩ = r ⟨k, .inr f⟩ := by
  induction cs generalizing r with
  | nil => rfl
  | cons c cs ih =>
    refine (ih _).trans (Function.update_of_ne ?_ _ _)
    cases c <;> exact fun heq => by cases heq

/-- One's own settings over another's other fields. -/
def laidOver (mine others : ExactSettings Other) : ExactSettings Other
  | ⟨k, .inl f⟩ => mine ⟨k, .inl f⟩
  | ⟨k, .inr f⟩ => others ⟨k, .inr f⟩

theorem restoreOwned_copyOwned (user current : ExactSettings Other)
    (original : Record (Value ℚ) OriginalField) :
    restoreOwned (ours Other) (copyOwned (ours Other) user original) current =
      laidOver user current := by
  funext ⟨k, f⟩
  cases f with
  | inl f => exact restoreOwned_inl user current original f
  | inr f => exact restoreOwned_inr _ current f

/-- A composition over captured settings is their meet with the caps of the qualities. -/
theorem composed_eq (user current : ExactSettings Other)
    (original : Record (Value ℚ) OriginalField) (quality : QualityGroup → ℤ)
    (order : List QualityGroup) :
    composed (ours Other) (copyOwned (ours Other) user original) quality order current =
      capped (qualityLimits quality order) (laidOver user current) := by
  unfold composed
  rw [restoreOwned_copyOwned, applied_eq]

theorem capped_qualityLimits_inr (quality : QualityGroup → ℤ) (order : List QualityGroup)
    (r : ExactSettings Other) {k : Kind} (f : Other k) :
    capped (qualityLimits quality order) r ⟨k, .inr f⟩ = r ⟨k, .inr f⟩ := by
  unfold qualityLimits
  rw [← List.map_flatMap]
  exact capped_inr f r

omit [∀ k, DecidableEq (Other k)] in
theorem qualityLimits_full (order : List QualityGroup) :
    @qualityLimits Other (fun _ => 100) order = [] := by
  refine List.flatMap_eq_nil_iff.mpr fun g _ => ?_
  cases g <;> rfl

/-- **A composition is a meet.**  Over the user's captured settings it may be made again, by itself
or over its own result, and by appliers in any order; it leaves the other owners' fields, asks for
no more than the user did, for just that at full quality, and for no more at a lower one. -/
theorem composition_is_meet (user current : ExactSettings Other)
    (original : Record (Value ℚ) OriginalField) (quality : QualityGroup → ℤ)
    {order : List QualityGroup} (horder : order.Perm sourceOrder) :
    let captured := copyOwned (ours Other) user original
    let result := composed (ours Other) captured quality order current
    result = composed (ours Other) captured quality sourceOrder current ∧
      applied (ours Other) quality order result = result ∧
      composed (ours Other) captured quality order result = result ∧
      composed (ours Other) (copyOwned (ours Other) result original) quality order result =
        result ∧
      (∀ k (f : Other k), result ⟨k, .inr f⟩ = current ⟨k, .inr f⟩) ∧
      (∀ k (f : GFXField k), NoCostlier ⟨k, .inl f⟩ (result ⟨k, .inl f⟩) (user ⟨k, .inl f⟩)) ∧
      (quality = (fun _ => 100) → ∀ k (f : GFXField k), result ⟨k, .inl f⟩ = user ⟨k, .inl f⟩) ∧
      ∀ lower : QualityGroup → ℤ, (∀ g, lower g ≤ quality g) → ∀ f,
        NoCostlier f (composed (ours Other) captured lower order current f) (result f) := by
  intro captured result
  have hresult : result = capped (qualityLimits quality order) (laidOver user current) :=
    composed_eq user current original quality order
  have hagain : capped (qualityLimits quality order) result = result := by
    rw [hresult]
    exact imposeAll_idem _ _
  have hother : ∀ k (f : Other k), result ⟨k, .inr f⟩ = current ⟨k, .inr f⟩ := by
    intro k f
    rw [hresult]
    exact capped_qualityLimits_inr quality order _ f
  have hsame : laidOver user result = laidOver user current := by
    funext ⟨k, f⟩
    cases f with
    | inl f => rfl
    | inr f => exact hother k f
  have hself : laidOver result result = result := by
    funext ⟨k, f⟩
    cases f <;> rfl
  refine ⟨?_, ?_, ?_, ?_, hother, ?_, ?_, ?_⟩
  · rw [hresult, composed_eq]
    exact imposeAll_perm (horder.flatMap_right _) _
  · rw [applied_eq]
    exact hagain
  · rw [composed_eq, hsame, hresult]
  · rw [composed_eq, hself]
    exact hagain
  · intro k f
    rw [hresult]
    exact imposeAll_le (V := Level) _ (laidOver user current) ⟨k, .inl f⟩
  · rintro rfl k f
    rw [hresult, qualityLimits_full]
    rfl
  · intro lower hlower
    rw [composed_eq, hresult]
    exact Tighter.imposeAll (.flatMap (fun g => harder (hlower g) g) order) _

end Caps

/-- A user with everything on, and a game without other settings. -/
def costlySettings : ExactSettings fun _ => Empty
  | ⟨.int, _⟩ => (4096 : ℤ)
  | ⟨.float, _⟩ => (20 : ℚ)
  | ⟨.bool, _⟩ => true

/-- A snapshot that has not been used. -/
def noOriginal : Record (Value ℚ) OriginalField
  | ⟨.int, _⟩ => (0 : ℤ)
  | ⟨.float, _⟩ => (0 : ℚ)
  | ⟨.bool, _⟩ => false

theorem composition_is_meet_reversed :
    composed (ours fun _ => Empty) (copyOwned (ours fun _ => Empty) costlySettings noOriginal)
        (fun _ => 40) sourceOrder.reverse costlySettings =
      composed (ours fun _ => Empty) (copyOwned (ours fun _ => Empty) costlySettings noOriginal)
        (fun _ => 40) sourceOrder costlySettings :=
  (composition_is_meet costlySettings costlySettings _ _ sourceOrder.reverse_perm).1

end Kf2Optimizer.Graphics
