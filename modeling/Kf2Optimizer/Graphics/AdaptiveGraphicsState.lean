/-
# The snapshot of the user's graphics

The live graphics actuator lowers KF2's settings and must be able to give them back.  What it
needs for that is in one object, `KF2OptimizerAdaptiveGraphicsState`: the user's own value of
every setting it can lower, the qualities in force, and what is still owed when a write did not
read back.

Five lists of the source, written by hand, name the settings: what is copied into the snapshot,
what is restored from it, what a readback compares, and what a change of the graphics menu is
looked for in and rebased on.  Each is a table here, in its own order, and `restored_eq` to
`rebased_eq` say that they name the same settings.
-/
import Kf2Optimizer.Lib.Tables
import Mathlib.Data.Int.Notation

namespace Kf2Optimizer.Graphics

open Tables

/-! ## 1. Settings -/

/-- What a setting holds: UnrealScript's `int`, `float` and `bool`. -/
inductive Kind
  | int
  | float
  | bool
deriving DecidableEq

abbrev Kind.Value : Kind → Type
  | .int => ℤ
  | .float => Float32
  | .bool => Bool

/-- The fields of `GFXSettings` that the appliers write. -/
inductive GFXField : Kind → Type
  | maxWholeSceneDominantShadowResolution : GFXField .int
  | maxShadowResolution : GFXField .int
  | shadowFadeResolution : GFXField .int
  | minShadowResolution : GFXField .int
  | shadowTexelsPerPixel : GFXField .float
  | globalShadowDistanceScale : GFXField .float
  | allowWholeSceneDominantShadows : GFXField .bool
  | allowDynamicShadows : GFXField .bool
  | allowPerObjectShadows : GFXField .bool
  | allowForegroundPreshadows : GFXField .bool
  | bloomQuality : GFXField .int
  | motionBlurQuality : GFXField .int
  | depthOfFieldQuality : GFXField .int
  | distanceFogQuality : GFXField .int
  | allowScreenSpaceReflections : GFXField .bool
  | hbao : GFXField .bool
  | depthOfField : GFXField .bool
  | allowLightShafts : GFXField .bool
  | allowLightCones : GFXField .bool
  | allowLensFlares : GFXField .bool
  | ambientOcclusion : GFXField .bool
  | bloom : GFXField .bool
  | distortion : GFXField .bool
  | filteredDistortion : GFXField .bool
  | dropParticleDistortion : GFXField .bool
  | allowSecondaryBloodEffects : GFXField .bool
  | allowExplosionLights : GFXField .bool
  | allowSprayActorLights : GFXField .bool
  | allowPilotLights : GFXField .bool
  | allowBloodSplatterDecals : GFXField .bool
  | allowSubsurfaceScattering : GFXField .bool
  | shouldCorpseCollideWithDead : GFXField .bool
  | shouldCorpseCollideWithLiving : GFXField .bool
  | shouldCorpseCollideWithDeadAfterSleep : GFXField .bool
  | allowLightFunctions : GFXField .bool
  | detailMode : GFXField .int
  | destructionLifetimeScale : GFXField .float
  | skeletalMeshLODBias : GFXField .int
  | kinematicUpdateDistFactorScale : GFXField .float
  | particleLODBias : GFXField .int
  | characterBias : GFXField .int
  | weapon1stBias : GFXField .int
  | weapon3rdBias : GFXField .int
  | environmentBias : GFXField .int
  | fxBias : GFXField .int
  | shadowmapBias : GFXField .int
  | maxAnisotropy : GFXField .int
  | emitterPoolScale : GFXField .float
  | shellEjectLifetime : GFXField .float
  | goreFXLifetimeMultiplier : GFXField .float
  | maxImpactEffectDecals : GFXField .int
  | maxExplosionDecals : GFXField .int
  | maxBloodEffects : GFXField .int
  | maxGoreEffects : GFXField .int
  | maxPersistentSplatsPerFrame : GFXField .int
  | maxBodyWoundDecals : GFXField .int
deriving DecidableEq

/-- The `Original...` fields of a snapshot. -/
inductive OriginalField : Kind → Type
  | maxWholeSceneShadowResolution : OriginalField .int
  | maxShadowResolution : OriginalField .int
  | shadowFadeResolution : OriginalField .int
  | minShadowResolution : OriginalField .int
  | shadowTexelsPerPixel : OriginalField .float
  | globalShadowDistanceScale : OriginalField .float
  | wholeSceneDominantShadows : OriginalField .bool
  | dynamicShadows : OriginalField .bool
  | perObjectShadows : OriginalField .bool
  | foregroundPreshadows : OriginalField .bool
  | bloomQuality : OriginalField .int
  | motionBlurQuality : OriginalField .int
  | depthOfFieldQuality : OriginalField .int
  | distanceFogQuality : OriginalField .int
  | screenSpaceReflections : OriginalField .bool
  | hbao : OriginalField .bool
  | depthOfField : OriginalField .bool
  | lightShafts : OriginalField .bool
  | lightCones : OriginalField .bool
  | lensFlares : OriginalField .bool
  | ambientOcclusion : OriginalField .bool
  | bloom : OriginalField .bool
  | distortion : OriginalField .bool
  | filteredDistortion : OriginalField .bool
  | dropParticleDistortion : OriginalField .bool
  | secondaryBloodEffects : OriginalField .bool
  | explosionLights : OriginalField .bool
  | sprayActorLights : OriginalField .bool
  | pilotLights : OriginalField .bool
  | bloodSplatterDecals : OriginalField .bool
  | subsurfaceScattering : OriginalField .bool
  | corpseCollideWithDead : OriginalField .bool
  | corpseCollideWithLiving : OriginalField .bool
  | corpseCollideWithDeadAfterSleep : OriginalField .bool
  | lightFunctions : OriginalField .bool
  | detailMode : OriginalField .int
  | destructionLifetimeScale : OriginalField .float
  | skeletalMeshLODBias : OriginalField .int
  | kinematicUpdateScale : OriginalField .float
  | particleLODBias : OriginalField .int
  | characterTextureBias : OriginalField .int
  | weapon1stTextureBias : OriginalField .int
  | weapon3rdTextureBias : OriginalField .int
  | environmentTextureBias : OriginalField .int
  | fxTextureBias : OriginalField .int
  | shadowmapTextureBias : OriginalField .int
  | maxAnisotropy : OriginalField .int
  | emitterPoolScale : OriginalField .float
  | shellEjectLifetime : OriginalField .float
  | goreLifetimeMultiplier : OriginalField .float
  | maxImpactEffectDecals : OriginalField .int
  | maxExplosionDecals : OriginalField .int
  | maxBloodEffects : OriginalField .int
  | maxGoreEffects : OriginalField .int
  | maxPersistentSplatsPerFrame : OriginalField .int
  | maxBodyWoundDecals : OriginalField .int
deriving DecidableEq

/-- KF2's `GFXSettings`, as far as the actuator owns them.  What else is in them goes from
`GetCurrentGFXSettings` to the setters as it is. -/
abbrev GFXSettings := Record Kind.Value GFXField

abbrev Originals := Record Kind.Value OriginalField

/-! ## 2. The five lists -/

/-- `CopyOwnedSettings`, line by line. -/
def copied : Table OriginalField GFXField :=
  [⟨.int, .maxWholeSceneShadowResolution, .maxWholeSceneDominantShadowResolution⟩,
   ⟨.int, .maxShadowResolution, .maxShadowResolution⟩,
   ⟨.int, .shadowFadeResolution, .shadowFadeResolution⟩,
   ⟨.int, .minShadowResolution, .minShadowResolution⟩,
   ⟨.float, .shadowTexelsPerPixel, .shadowTexelsPerPixel⟩,
   ⟨.float, .globalShadowDistanceScale, .globalShadowDistanceScale⟩,
   ⟨.bool, .wholeSceneDominantShadows, .allowWholeSceneDominantShadows⟩,
   ⟨.bool, .dynamicShadows, .allowDynamicShadows⟩,
   ⟨.bool, .perObjectShadows, .allowPerObjectShadows⟩,
   ⟨.bool, .foregroundPreshadows, .allowForegroundPreshadows⟩,
   ⟨.int, .bloomQuality, .bloomQuality⟩, ⟨.int, .motionBlurQuality, .motionBlurQuality⟩,
   ⟨.int, .depthOfFieldQuality, .depthOfFieldQuality⟩,
   ⟨.int, .distanceFogQuality, .distanceFogQuality⟩,
   ⟨.bool, .screenSpaceReflections, .allowScreenSpaceReflections⟩, ⟨.bool, .hbao, .hbao⟩,
   ⟨.bool, .depthOfField, .depthOfField⟩, ⟨.bool, .lightShafts, .allowLightShafts⟩,
   ⟨.bool, .lightCones, .allowLightCones⟩, ⟨.bool, .lensFlares, .allowLensFlares⟩,
   ⟨.bool, .ambientOcclusion, .ambientOcclusion⟩, ⟨.bool, .bloom, .bloom⟩,
   ⟨.bool, .distortion, .distortion⟩, ⟨.bool, .filteredDistortion, .filteredDistortion⟩,
   ⟨.bool, .dropParticleDistortion, .dropParticleDistortion⟩,
   ⟨.bool, .secondaryBloodEffects, .allowSecondaryBloodEffects⟩,
   ⟨.bool, .explosionLights, .allowExplosionLights⟩,
   ⟨.bool, .sprayActorLights, .allowSprayActorLights⟩, ⟨.bool, .pilotLights, .allowPilotLights⟩,
   ⟨.bool, .bloodSplatterDecals, .allowBloodSplatterDecals⟩,
   ⟨.bool, .subsurfaceScattering, .allowSubsurfaceScattering⟩,
   ⟨.bool, .corpseCollideWithDead, .shouldCorpseCollideWithDead⟩,
   ⟨.bool, .corpseCollideWithLiving, .shouldCorpseCollideWithLiving⟩,
   ⟨.bool, .corpseCollideWithDeadAfterSleep, .shouldCorpseCollideWithDeadAfterSleep⟩,
   ⟨.bool, .lightFunctions, .allowLightFunctions⟩, ⟨.int, .detailMode, .detailMode⟩,
   ⟨.float, .destructionLifetimeScale, .destructionLifetimeScale⟩,
   ⟨.int, .skeletalMeshLODBias, .skeletalMeshLODBias⟩,
   ⟨.float, .kinematicUpdateScale, .kinematicUpdateDistFactorScale⟩,
   ⟨.int, .particleLODBias, .particleLODBias⟩, ⟨.int, .characterTextureBias, .characterBias⟩,
   ⟨.int, .weapon1stTextureBias, .weapon1stBias⟩, ⟨.int, .weapon3rdTextureBias, .weapon3rdBias⟩,
   ⟨.int, .environmentTextureBias, .environmentBias⟩, ⟨.int, .fxTextureBias, .fxBias⟩,
   ⟨.int, .shadowmapTextureBias, .shadowmapBias⟩, ⟨.int, .maxAnisotropy, .maxAnisotropy⟩,
   ⟨.float, .emitterPoolScale, .emitterPoolScale⟩,
   ⟨.float, .shellEjectLifetime, .shellEjectLifetime⟩,
   ⟨.float, .goreLifetimeMultiplier, .goreFXLifetimeMultiplier⟩,
   ⟨.int, .maxImpactEffectDecals, .maxImpactEffectDecals⟩,
   ⟨.int, .maxExplosionDecals, .maxExplosionDecals⟩, ⟨.int, .maxBloodEffects, .maxBloodEffects⟩,
   ⟨.int, .maxGoreEffects, .maxGoreEffects⟩,
   ⟨.int, .maxPersistentSplatsPerFrame, .maxPersistentSplatsPerFrame⟩,
   ⟨.int, .maxBodyWoundDecals, .maxBodyWoundDecals⟩]

/-- `RestoreOwnedSettings`, line by line. -/
def restored : Table GFXField OriginalField :=
  [⟨.int, .maxWholeSceneDominantShadowResolution, .maxWholeSceneShadowResolution⟩,
   ⟨.int, .maxShadowResolution, .maxShadowResolution⟩,
   ⟨.int, .shadowFadeResolution, .shadowFadeResolution⟩,
   ⟨.int, .minShadowResolution, .minShadowResolution⟩,
   ⟨.float, .shadowTexelsPerPixel, .shadowTexelsPerPixel⟩,
   ⟨.float, .globalShadowDistanceScale, .globalShadowDistanceScale⟩,
   ⟨.bool, .allowWholeSceneDominantShadows, .wholeSceneDominantShadows⟩,
   ⟨.bool, .allowDynamicShadows, .dynamicShadows⟩,
   ⟨.bool, .allowPerObjectShadows, .perObjectShadows⟩,
   ⟨.bool, .allowForegroundPreshadows, .foregroundPreshadows⟩,
   ⟨.int, .bloomQuality, .bloomQuality⟩, ⟨.int, .motionBlurQuality, .motionBlurQuality⟩,
   ⟨.int, .depthOfFieldQuality, .depthOfFieldQuality⟩,
   ⟨.int, .distanceFogQuality, .distanceFogQuality⟩,
   ⟨.bool, .allowScreenSpaceReflections, .screenSpaceReflections⟩, ⟨.bool, .hbao, .hbao⟩,
   ⟨.bool, .depthOfField, .depthOfField⟩, ⟨.bool, .allowLightShafts, .lightShafts⟩,
   ⟨.bool, .allowLightCones, .lightCones⟩, ⟨.bool, .allowLensFlares, .lensFlares⟩,
   ⟨.bool, .ambientOcclusion, .ambientOcclusion⟩, ⟨.bool, .bloom, .bloom⟩,
   ⟨.bool, .distortion, .distortion⟩, ⟨.bool, .filteredDistortion, .filteredDistortion⟩,
   ⟨.bool, .dropParticleDistortion, .dropParticleDistortion⟩,
   ⟨.bool, .allowSecondaryBloodEffects, .secondaryBloodEffects⟩,
   ⟨.bool, .allowExplosionLights, .explosionLights⟩,
   ⟨.bool, .allowSprayActorLights, .sprayActorLights⟩, ⟨.bool, .allowPilotLights, .pilotLights⟩,
   ⟨.bool, .allowBloodSplatterDecals, .bloodSplatterDecals⟩,
   ⟨.bool, .allowSubsurfaceScattering, .subsurfaceScattering⟩,
   ⟨.bool, .shouldCorpseCollideWithDead, .corpseCollideWithDead⟩,
   ⟨.bool, .shouldCorpseCollideWithLiving, .corpseCollideWithLiving⟩,
   ⟨.bool, .shouldCorpseCollideWithDeadAfterSleep, .corpseCollideWithDeadAfterSleep⟩,
   ⟨.bool, .allowLightFunctions, .lightFunctions⟩, ⟨.int, .detailMode, .detailMode⟩,
   ⟨.float, .destructionLifetimeScale, .destructionLifetimeScale⟩,
   ⟨.int, .skeletalMeshLODBias, .skeletalMeshLODBias⟩,
   ⟨.float, .kinematicUpdateDistFactorScale, .kinematicUpdateScale⟩,
   ⟨.int, .particleLODBias, .particleLODBias⟩, ⟨.int, .characterBias, .characterTextureBias⟩,
   ⟨.int, .weapon1stBias, .weapon1stTextureBias⟩, ⟨.int, .weapon3rdBias, .weapon3rdTextureBias⟩,
   ⟨.int, .environmentBias, .environmentTextureBias⟩, ⟨.int, .fxBias, .fxTextureBias⟩,
   ⟨.int, .shadowmapBias, .shadowmapTextureBias⟩, ⟨.int, .maxAnisotropy, .maxAnisotropy⟩,
   ⟨.float, .emitterPoolScale, .emitterPoolScale⟩,
   ⟨.float, .shellEjectLifetime, .shellEjectLifetime⟩,
   ⟨.float, .goreFXLifetimeMultiplier, .goreLifetimeMultiplier⟩,
   ⟨.int, .maxImpactEffectDecals, .maxImpactEffectDecals⟩,
   ⟨.int, .maxExplosionDecals, .maxExplosionDecals⟩, ⟨.int, .maxBloodEffects, .maxBloodEffects⟩,
   ⟨.int, .maxGoreEffects, .maxGoreEffects⟩,
   ⟨.int, .maxPersistentSplatsPerFrame, .maxPersistentSplatsPerFrame⟩,
   ⟨.int, .maxBodyWoundDecals, .maxBodyWoundDecals⟩]

/-- What `ReadbackMatches` compares. -/
def compared : List (Σ k, GFXField k) :=
  [⟨.int, .maxWholeSceneDominantShadowResolution⟩, ⟨.int, .maxShadowResolution⟩,
   ⟨.int, .shadowFadeResolution⟩, ⟨.int, .minShadowResolution⟩, ⟨.float, .shadowTexelsPerPixel⟩,
   ⟨.float, .globalShadowDistanceScale⟩, ⟨.bool, .allowWholeSceneDominantShadows⟩,
   ⟨.bool, .allowDynamicShadows⟩, ⟨.bool, .allowPerObjectShadows⟩,
   ⟨.bool, .allowForegroundPreshadows⟩, ⟨.int, .bloomQuality⟩, ⟨.int, .motionBlurQuality⟩,
   ⟨.int, .depthOfFieldQuality⟩, ⟨.int, .distanceFogQuality⟩,
   ⟨.bool, .allowScreenSpaceReflections⟩, ⟨.bool, .hbao⟩, ⟨.bool, .depthOfField⟩,
   ⟨.bool, .allowLightShafts⟩, ⟨.bool, .allowLightCones⟩, ⟨.bool, .allowLensFlares⟩,
   ⟨.bool, .ambientOcclusion⟩, ⟨.bool, .bloom⟩, ⟨.bool, .distortion⟩, ⟨.bool, .filteredDistortion⟩,
   ⟨.bool, .dropParticleDistortion⟩, ⟨.bool, .allowSecondaryBloodEffects⟩,
   ⟨.bool, .allowExplosionLights⟩, ⟨.bool, .allowSprayActorLights⟩, ⟨.bool, .allowPilotLights⟩,
   ⟨.bool, .allowBloodSplatterDecals⟩, ⟨.bool, .allowSubsurfaceScattering⟩,
   ⟨.bool, .shouldCorpseCollideWithDead⟩, ⟨.bool, .shouldCorpseCollideWithLiving⟩,
   ⟨.bool, .shouldCorpseCollideWithDeadAfterSleep⟩, ⟨.bool, .allowLightFunctions⟩,
   ⟨.int, .detailMode⟩, ⟨.float, .destructionLifetimeScale⟩, ⟨.int, .skeletalMeshLODBias⟩,
   ⟨.float, .kinematicUpdateDistFactorScale⟩, ⟨.int, .particleLODBias⟩, ⟨.int, .characterBias⟩,
   ⟨.int, .weapon1stBias⟩, ⟨.int, .weapon3rdBias⟩, ⟨.int, .environmentBias⟩, ⟨.int, .fxBias⟩,
   ⟨.int, .shadowmapBias⟩, ⟨.int, .maxAnisotropy⟩, ⟨.float, .emitterPoolScale⟩,
   ⟨.float, .shellEjectLifetime⟩, ⟨.float, .goreFXLifetimeMultiplier⟩,
   ⟨.int, .maxImpactEffectDecals⟩, ⟨.int, .maxExplosionDecals⟩, ⟨.int, .maxBloodEffects⟩,
   ⟨.int, .maxGoreEffects⟩, ⟨.int, .maxPersistentSplatsPerFrame⟩, ⟨.int, .maxBodyWoundDecals⟩]

/-- What `OwnedSettingsDiffer` compares. -/
def differing : List (Σ k, OriginalField k) :=
  [⟨.int, .maxWholeSceneShadowResolution⟩, ⟨.int, .maxShadowResolution⟩,
   ⟨.int, .shadowFadeResolution⟩, ⟨.int, .minShadowResolution⟩, ⟨.float, .shadowTexelsPerPixel⟩,
   ⟨.float, .globalShadowDistanceScale⟩, ⟨.bool, .wholeSceneDominantShadows⟩,
   ⟨.bool, .dynamicShadows⟩, ⟨.bool, .perObjectShadows⟩, ⟨.bool, .foregroundPreshadows⟩,
   ⟨.int, .bloomQuality⟩, ⟨.int, .motionBlurQuality⟩, ⟨.int, .depthOfFieldQuality⟩,
   ⟨.int, .distanceFogQuality⟩, ⟨.bool, .screenSpaceReflections⟩, ⟨.bool, .hbao⟩,
   ⟨.bool, .depthOfField⟩, ⟨.bool, .lightShafts⟩, ⟨.bool, .lightCones⟩, ⟨.bool, .lensFlares⟩,
   ⟨.bool, .ambientOcclusion⟩, ⟨.bool, .bloom⟩, ⟨.bool, .distortion⟩, ⟨.bool, .filteredDistortion⟩,
   ⟨.bool, .dropParticleDistortion⟩, ⟨.bool, .secondaryBloodEffects⟩, ⟨.bool, .explosionLights⟩,
   ⟨.bool, .sprayActorLights⟩, ⟨.bool, .pilotLights⟩, ⟨.bool, .bloodSplatterDecals⟩,
   ⟨.bool, .subsurfaceScattering⟩, ⟨.bool, .corpseCollideWithDead⟩,
   ⟨.bool, .corpseCollideWithLiving⟩, ⟨.bool, .corpseCollideWithDeadAfterSleep⟩,
   ⟨.bool, .lightFunctions⟩, ⟨.int, .detailMode⟩, ⟨.float, .destructionLifetimeScale⟩,
   ⟨.int, .skeletalMeshLODBias⟩, ⟨.float, .kinematicUpdateScale⟩, ⟨.int, .particleLODBias⟩,
   ⟨.int, .characterTextureBias⟩, ⟨.int, .weapon1stTextureBias⟩, ⟨.int, .weapon3rdTextureBias⟩,
   ⟨.int, .environmentTextureBias⟩, ⟨.int, .fxTextureBias⟩, ⟨.int, .shadowmapTextureBias⟩,
   ⟨.int, .maxAnisotropy⟩, ⟨.float, .emitterPoolScale⟩, ⟨.float, .shellEjectLifetime⟩,
   ⟨.float, .goreLifetimeMultiplier⟩, ⟨.int, .maxImpactEffectDecals⟩, ⟨.int, .maxExplosionDecals⟩,
   ⟨.int, .maxBloodEffects⟩, ⟨.int, .maxGoreEffects⟩, ⟨.int, .maxPersistentSplatsPerFrame⟩,
   ⟨.int, .maxBodyWoundDecals⟩]

/-- What `RebaseOriginalFromMenuChange` looks at, one field at a time. -/
def rebased : List (Σ k, OriginalField k) :=
  [⟨.int, .maxWholeSceneShadowResolution⟩, ⟨.int, .maxShadowResolution⟩,
   ⟨.int, .shadowFadeResolution⟩, ⟨.int, .minShadowResolution⟩, ⟨.float, .shadowTexelsPerPixel⟩,
   ⟨.float, .globalShadowDistanceScale⟩, ⟨.bool, .wholeSceneDominantShadows⟩,
   ⟨.bool, .dynamicShadows⟩, ⟨.bool, .perObjectShadows⟩, ⟨.bool, .foregroundPreshadows⟩,
   ⟨.int, .bloomQuality⟩, ⟨.int, .motionBlurQuality⟩, ⟨.int, .depthOfFieldQuality⟩,
   ⟨.int, .distanceFogQuality⟩, ⟨.bool, .screenSpaceReflections⟩, ⟨.bool, .hbao⟩,
   ⟨.bool, .depthOfField⟩, ⟨.bool, .lightShafts⟩, ⟨.bool, .lightCones⟩, ⟨.bool, .lensFlares⟩,
   ⟨.bool, .ambientOcclusion⟩, ⟨.bool, .bloom⟩, ⟨.bool, .distortion⟩, ⟨.bool, .filteredDistortion⟩,
   ⟨.bool, .dropParticleDistortion⟩, ⟨.bool, .secondaryBloodEffects⟩, ⟨.bool, .explosionLights⟩,
   ⟨.bool, .sprayActorLights⟩, ⟨.bool, .pilotLights⟩, ⟨.bool, .bloodSplatterDecals⟩,
   ⟨.bool, .subsurfaceScattering⟩, ⟨.bool, .corpseCollideWithDead⟩,
   ⟨.bool, .corpseCollideWithLiving⟩, ⟨.bool, .corpseCollideWithDeadAfterSleep⟩,
   ⟨.bool, .lightFunctions⟩, ⟨.int, .detailMode⟩, ⟨.float, .destructionLifetimeScale⟩,
   ⟨.int, .skeletalMeshLODBias⟩, ⟨.float, .kinematicUpdateScale⟩, ⟨.int, .particleLODBias⟩,
   ⟨.int, .characterTextureBias⟩, ⟨.int, .weapon1stTextureBias⟩, ⟨.int, .weapon3rdTextureBias⟩,
   ⟨.int, .environmentTextureBias⟩, ⟨.int, .fxTextureBias⟩, ⟨.int, .shadowmapTextureBias⟩,
   ⟨.int, .maxAnisotropy⟩, ⟨.float, .emitterPoolScale⟩, ⟨.float, .shellEjectLifetime⟩,
   ⟨.float, .goreLifetimeMultiplier⟩, ⟨.int, .maxImpactEffectDecals⟩, ⟨.int, .maxExplosionDecals⟩,
   ⟨.int, .maxBloodEffects⟩, ⟨.int, .maxGoreEffects⟩, ⟨.int, .maxPersistentSplatsPerFrame⟩,
   ⟨.int, .maxBodyWoundDecals⟩]

theorem restored_eq : restored = reverse copied := rfl

theorem compared_eq : compared = targets restored := rfl

theorem differing_eq : differing = targets copied := rfl

theorem rebased_eq : rebased = targets copied := rfl

theorem targets_copied_nodup : (targets copied).Nodup := by decide +kernel

theorem targets_restored_nodup : (targets restored).Nodup := by decide +kernel

theorem mem_targets_copied : ∀ o, o ∈ targets copied := by
  rintro ⟨k, o⟩
  cases o <;> decide +kernel

/-- The lists leave out no setting. -/
theorem mem_targets_restored : ∀ f, f ∈ targets restored := by
  rintro ⟨k, f⟩
  cases f <;> decide +kernel

/-! ## 3. The snapshot -/

/-- One quality for each group of settings, in the order of the source's arguments. -/
structure Qualities where
  gpu : ℤ
  cpu : ℤ
  vram : ℤ
  ram : ℤ
  overdraw : ℤ
  effects : ℤ
deriving DecidableEq

/-- Nothing lowered. -/
def Qualities.full : Qualities := ⟨100, 100, 100, 100, 100, 100⟩

/-- `KF2OptimizerAdaptiveGraphicsState`. -/
structure AdaptiveGraphicsState where
  originalCaptured : Bool
  originalRestorePending : Bool
  /-- `GpuQuality` to `EffectsQuality`. -/
  quality : Qualities
  fixedOverdrawQuality : ℤ
  fixedEffectsQuality : ℤ
  qualityStateKnown : Bool
  qualityRestorePending : Bool
  /-- `RestoreGpuQuality` to `RestoreEffectsQuality`. -/
  restoreQuality : Qualities
  original : Originals

/-- What UnrealScript gives a variable without a default. -/
def Kind.zero : (k : Kind) → k.Value
  | .int => (0 : ℤ)
  | .float => (0 : Float32)
  | .bool => false

/-- The class's `defaultproperties`. -/
def AdaptiveGraphicsState.new : AdaptiveGraphicsState where
  originalCaptured := false
  originalRestorePending := false
  quality := .full
  fixedOverdrawQuality := 100
  fixedEffectsQuality := 100
  qualityStateKnown := true
  qualityRestorePending := false
  restoreQuality := ⟨0, 0, 0, 0, 0, 0⟩
  original o := o.1.zero

/-- `CopyOwnedSettings`. -/
def copyOwnedSettings (snapshot : AdaptiveGraphicsState) (current : GFXSettings) :
    AdaptiveGraphicsState :=
  { snapshot with original := assign copied current snapshot.original }

/-- `RestoreOwnedSettings`. -/
def restoreOwnedSettings (snapshot : AdaptiveGraphicsState) (requested : GFXSettings) :
    GFXSettings :=
  assign restored snapshot.original requested

/-- The settings that a snapshot holds. -/
def AdaptiveGraphicsState.userSettings (snapshot : AdaptiveGraphicsState) : GFXSettings :=
  restoreOwnedSettings snapshot fun f => f.1.zero

/-- Restoring leaves nothing of the settings it is done over. -/
theorem restoreOwnedSettings_eq (snapshot : AdaptiveGraphicsState) (requested : GFXSettings) :
    restoreOwnedSettings snapshot requested = snapshot.userSettings := by
  unfold AdaptiveGraphicsState.userSettings restoreOwnedSettings
  exact assign_congr targets_restored_nodup mem_targets_restored snapshot.original requested _

/-- **Capture and restore agree**, whatever else the snapshot held. -/
@[simp] theorem userSettings_copyOwnedSettings (snapshot : AdaptiveGraphicsState)
    (current : GFXSettings) : (copyOwnedSettings snapshot current).userSettings = current := by
  unfold AdaptiveGraphicsState.userSettings restoreOwnedSettings copyOwnedSettings
  have hnodup := targets_restored_nodup
  have htotal := mem_targets_restored
  rw [restored_eq] at hnodup htotal ⊢
  exact assign_back targets_copied_nodup hnodup htotal current snapshot.original _

/-- `CaptureOriginal`. -/
def captureOriginal (snapshot : AdaptiveGraphicsState) (current : GFXSettings) :
    AdaptiveGraphicsState :=
  { copyOwnedSettings snapshot current with
    quality := .full
    fixedOverdrawQuality := 100
    fixedEffectsQuality := 100
    originalCaptured := true }

@[simp] theorem userSettings_captureOriginal (snapshot : AdaptiveGraphicsState)
    (current : GFXSettings) : (captureOriginal snapshot current).userSettings = current :=
  userSettings_copyOwnedSettings snapshot current

theorem userSettings_congr {s s' : AdaptiveGraphicsState} (h : s.original = s'.original) :
    s.userSettings = s'.userSettings := by
  unfold AdaptiveGraphicsState.userSettings restoreOwnedSettings
  rw [h]

/-! ## 4. Readback -/

/-- One comparison of `ReadbackMatches`. -/
def Kind.readsBack : (k : Kind) → k.Value → k.Value → Bool
  | .int, observed, requested => decide ((observed : ℤ) = requested)
  | .float, observed, requested => decide (((observed : Float32) - requested).abs < 0.001)
  | .bool, observed, requested => (observed : Bool) == requested

/-- `ReadbackMatches`. -/
def readbackMatches (observed requested : GFXSettings) : Bool :=
  compared.all fun f => Kind.readsBack f.1 (observed f) (requested f)

theorem readbackMatches_iff {observed requested : GFXSettings} :
    readbackMatches observed requested = true ↔
      ∀ f, Kind.readsBack f.1 (observed f) (requested f) = true := by
  unfold readbackMatches
  rw [List.all_eq_true, compared_eq]
  constructor
  · intro h f
    exact h f (mem_targets_restored f)
  · intro h f _
    exact h f

/-! ## 5. A change of the graphics menu -/

/-- `==` on two values of one kind. -/
def Kind.same : (k : Kind) → k.Value → k.Value → Bool
  | .int, a, b => decide ((a : ℤ) = b)
  | .float, a, b => (a : Float32) == b
  | .bool, a, b => (a : Bool) == b

/-- `OwnedSettingsDiffer`. -/
def ownedSettingsDiffer (previous current : AdaptiveGraphicsState) : Bool :=
  differing.any fun o => !o.1.same (previous.original o) (current.original o)

/-- One `if` of `RebaseOriginalFromMenuChange`. -/
def rebaseField (previous current : Originals) (original : Originals) (o : Σ k, OriginalField k) :
    Originals :=
  if o.1.same (previous o) (current o) then original else Function.update original o (current o)

/-- `RebaseOriginalFromMenuChange`. -/
def rebaseOriginalFromMenuChange (snapshot previous current : AdaptiveGraphicsState) :
    Bool × AdaptiveGraphicsState :=
  if !snapshot.originalCaptured || !ownedSettingsDiffer previous current then (false, snapshot)
  else (true, { snapshot with
    original := rebased.foldl (rebaseField previous.original current.original) snapshot.original })

end Kf2Optimizer.Graphics
