/-
# The setting catalog

`kf2_catalog.hpp`, `kf2_catalog.cpp` and the part of `setting_catalog.cpp` that gives every setting
its token: 217 settings of the configuration files, each with its key, its type and the values
it may have.  The files and sections they stand in are left out here.
-/
import Kf2Optimizer.Config.IniDocument
import Kf2Optimizer.Config.Settings
import Kf2Optimizer.Lib.Double

namespace Kf2Optimizer.Config

open Text

/-! ## 1. Settings -/

/-- `SettingId`. -/
inductive SettingId
  | targetFps | minimumSmoothFrameRate | smoothFrameRate | corpseLimit | goreEffectLimit
  | explosionDecalLimit | impactDecalLimit | woundDecalLimit | bloodSplatterDecalLimit
  | bloodPoolDecalLimit | bloodEffectLimit | bodyWoundDecalLifetime | bloodSplatterLifetime
  | bloodPoolLifetime | gibletLifetime | goreLifetimeMultiplier | persistentSplatsPerFrame
  | bloodSplatterDecals | secondaryBloodEffects | staticDecals | dynamicDecals
  | decalCullDistanceScale | dynamicShadows | lightEnvironmentShadows | ambientOcclusion | bloom
  | distortion | dropParticleDistortion | highQualityMaterials | detailMode | maxShadowResolution
  | maxWholeSceneShadowResolution | shadowTexelsPerPixel | fractureCullDistanceScale
  | corpseCollisionWithDead | corpseCollisionWithLiving | corpseCollisionAfterSleep
  | particleLodBias | skeletalMeshLodBias | maxDrawDistanceScale | globalShadowDistanceScale
  | ragdollAndGoreOnDeadBodies | depthOfField | lightShafts | lensFlares | radialBlur
  | separateTranslucency | fracturedDamage | motionBlur | postProcessAa | distanceFog
  | filteredDistortion | unbatchedDecals | wholeSceneDominantShadows | conservativeShadowBounds
  | maxAnisotropy | postProcessMlaa | persistentSplats | screenSpaceReflections
  | variableBlurReflections | subsurfaceScattering | lightFunctions | lightCones
  | destructionLifetimeScale | explosionLights | bloodSplatSize | bloodPoolSize
  | persistentSplatTraceLength | wholeSceneShadowCutoffDistance | wholeSceneShadowFadeDistance
  | groupedPerObjectShadows | groupedShadowMinRadius | groupedShadowMaxRadius
  | groupedShadowRampUpFactor | groupedShadowRampCutoff | maxOverlappingLights
  | lightOcclusionQueries | depthPrepass | reflectionDownsampleFactor | imageGrainScale
  | depthOfFieldQuality | bloomQuality | distanceFogQuality | volumetricLightingMode | physxLevel
  | physicsAsyncScene | enableAsyncScene | flexInvisibleFramesBeforeSleep
  | flexDistanceBeforeSleep | sphFluidMipmap | flexRigidCollisionHighLevel | verticalSync
  | oneFrameThreadLag | perFrameSleep | perFrameYield | forceAffinity | screenPercentage
  | motionBlurQuality | computeBloom | computeDepthOfField | computeMotionBlur | computeSsao
  | computeSsr | hbao | newDepthOfField | perObjectShadows | hardwareShadowFiltering
  | foregroundShadowsOnWorld | minShadowResolution | shadowFadeResolution | shadowDepthBias
  | imageReflections | imageReflectionShadowing | fracturedPartsScale | fractureDirectSpawnChance
  | fractureRadialSpawnChance | downsampledTranslucency | maxFilterBlurSamples
  | motionBlurStaticScale | motionBlurDynamicScale | overrideWeaponDepthOfField
  | booleanPreshadows | foregroundPreshadows | maxPerObjectShadowBounds
  | foregroundProjectionDepthBias | dynamicLights | compositeDynamicLights | secondaryHLighting
  | directionalLightmaps | motionBlurPause | motionBlurSkinning | fogVolumes
  | floatingPointRenderTargets | onlyStreamInTextures | upscaleScreenPercentage | temporalAa
  | maxMultiSamples | shadowFilterQualityBias | minPreShadowResolution | preShadowFadeResolution
  | preShadowResolutionFactor | shadowFadeExponent | shadowFilterRadius
  | perObjectShadowTransition | perSceneShadowTransition | branchingPcfShadows
  | foregroundSelfShadowing | highPrecisionGbuffers | tessellationPixelsPerTriangle
  | csmSplitPenumbraScale | csmSplitSoftTransitionScale | csmSplitDepthBiasScale | csmMinimumFov
  | csmFovRoundFactor | sceneCaptureStreamingMultiplier | instancedRendering
  | summedAreaTableCompute | histogramTechniques | apexDestructionChunkIslands
  | apexDestructionShapeCount | apexDestructionChunkSeparationLod
  | apexDestructionActorCreatesPerFrame | apexDestructionFracturesPerFrame
  | apexDestructionSortByBenefit | apexClothingFrequencyWindow | apexClothingAsyncCooking
  | apexClothingBetweenSubsteps | apexClothingAsyncFetch | disableDynamicWakeup
  | dynamicCollisionThreshold | maxPhysicsSubsteps | emitterPoolScale | physicsChunkOverrideChance
  | physicsChunkOverrideEnabled | fractureExplosionVelocityScale | limitExplosionChunkSize
  | limitDamageChunkSize | maxExplosionChunkSize | maxDamageChunkSize | textureStreaming
  | texturePoolSize | textureStreamingMemoryMargin | textureStreamingHysteresisLimit
  | minimumTextureResidentMips | textureAsyncDefrag | textureAsyncReallocation
  | boostPlayerTextures | maxParticleVertexMemory | apexWriteBufferTask
  | apexRenderResourcesGameThread | goreLevel | rigidBodyGravityScale | fracturedMeshWeaponDamage
  | decalLifetime | backgroundLevelStreaming | maxOcclusionPixelsFraction | maxParticleResize
  | maxParticleResizeWarning | checkParticleRenderSize | maxTrackedOcclusionIncrement
  | trackedOcclusionStepSize | streamingPause | stopStreamingLimit | lightmapStreamingFactor
  | shadowmapStreamingFactor | streamingLightmaps | priorityStreaming | switchingStreamingSystem
  | dynamicStreaming | particlePercentage | shellEjectLifetime | sprayActorLights | pilotLights
  | footstepSounds | kinematicUpdateDistanceScale | alwaysOnPhysics | overrideMapWholeSceneShadow
  | unverifiedEffectProfile
  deriving DecidableEq, Repr

inductive SettingType
  | integer
  | boolean
  | real
  deriving DecidableEq, Repr

/-- `SettingValue`.  A `double` is the number it stands for. -/
inductive SettingValue
  | int (value : ℤ)
  | bool (value : Bool)
  | real (value : ℚ)
  deriving DecidableEq

structure SettingDefinition where
  id : SettingId
  key : Wide
  type : SettingType
  minimum : ℚ := 0
  maximum : ℚ := 1
  allowedIntegers : List ℤ := []
  deriving DecidableEq

/-- A literal of wide characters, all of them ASCII. -/
def wideOf (text : String) : Wide := (ascii text).map fun b => UInt16.ofNat b.toNat

/-- A literal of type `double`. -/
def doubleOf (q : ℚ) : ℚ := (nearestDouble q).getD 0

namespace SettingDefinition

def integer (id : SettingId) (key : String) (minimum maximum : ℤ) (allowedIntegers : List ℤ) :
    SettingDefinition :=
  ⟨id, wideOf key, .integer, minimum, maximum, allowedIntegers⟩

def boolean (id : SettingId) (key : String) : SettingDefinition := ⟨id, wideOf key, .boolean, 0, 1, []⟩

def real (id : SettingId) (key : String) (minimum maximum : ℚ) : SettingDefinition :=
  ⟨id, wideOf key, .real, doubleOf minimum, doubleOf maximum, []⟩

end SettingDefinition

/-! ## 2. The catalog -/


def kAnisotropyLevels : List ℤ := [1, 2, 4, 8, 16]
def kShadowResolutionLevels : List ℤ := [256, 512, 1024, 1536, 2048, 4096]
def kWholeSceneShadowResolutionLevels : List ℤ := [256, 512, 1204, 1280, 2048, 4096]
def kQualityLevels : List ℤ := [0, 1, 2]
def kDepthOfFieldQualityLevels : List ℤ := [0, 1, 2, 3]
def kMinPreShadowResolutionLevels : List ℤ := [8, 16, 32, 64, 128, 256, 512, 1024]
def kMinShadowResolutionLevels : List ℤ := [8, 16, 32, 48, 64, 80, 112, 128, 256, 512, 1024]
def kShadowFadeResolutionLevels : List ℤ := [8, 16, 32, 64, 96, 128, 160, 224, 256, 512, 1024]
def kMultiSampleLevels : List ℤ := [1, 2, 4, 8]
def kShadowFilterQualityLevels : List ℤ := [-1, 0, 1]
def kMotionBlurSkinningLevels : List ℤ := [0, 1]
def kPhysicsSubstepLevels : List ℤ := [1, 2, 3, 4, 5]
def kGoreLevels : List ℤ := [0, 1, 2]

/-- `kSettings`. -/
def allSettings : List SettingDefinition := [
  .integer .targetFps "MaxSmoothedFrameRate" kTargetFpsMinimum kTargetFpsMaximum [],
  .integer .minimumSmoothFrameRate "MinSmoothedFrameRate" 1 360 [],
  .boolean .smoothFrameRate "bSmoothFrameRate",
  .integer .corpseLimit "MaxDeadBodies" 4 2000 [],
  .integer .goreEffectLimit "MaxGoreEffects" 0 128 [],
  .integer .explosionDecalLimit "MaxExplosionDecals" 0 128 [],
  .integer .impactDecalLimit "MaxImpactEffectDecals" 0 128 [],
  .integer .woundDecalLimit "MaxBodyWoundDecals" 2 64 [],
  .integer .bloodSplatterDecalLimit "MaxBloodSplatterDecals" 0 128 [],
  .integer .bloodPoolDecalLimit "MaxBloodPoolDecals" 0 128 [],
  .integer .bloodEffectLimit "MaxBloodEffects" 0 128 [],
  .integer .bodyWoundDecalLifetime "BodyWoundDecalLifetime" 0 120 [],
  .integer .bloodSplatterLifetime "BloodSplatterLifetime" 0 120 [],
  .integer .bloodPoolLifetime "BloodPoolLifetime" 0 120 [],
  .integer .gibletLifetime "GibletLifetime" 0 120 [],
  .real .goreLifetimeMultiplier "GoreFXLifetimeMultiplier" (1 / 10) 2,
  .integer .persistentSplatsPerFrame "MaxPersistentSplatsPerFrame" 1 256 [],
  .boolean .bloodSplatterDecals "AllowBloodSplatterDecals",
  .boolean .secondaryBloodEffects "AllowSecondaryBloodEffects",
  .boolean .staticDecals "StaticDecals",
  .boolean .dynamicDecals "DynamicDecals",
  .real .decalCullDistanceScale "DecalCullDistanceScale" (1 / 10) 2,
  .boolean .dynamicShadows "DynamicShadows",
  .boolean .lightEnvironmentShadows "LightEnvironmentShadows",
  .boolean .ambientOcclusion "AmbientOcclusion",
  .boolean .bloom "Bloom",
  .boolean .distortion "Distortion",
  .boolean .dropParticleDistortion "DropParticleDistortion",
  .boolean .highQualityMaterials "bAllowHighQualityMaterials",
  .integer .detailMode "DetailMode" 0 2 [],
  .integer .maxShadowResolution "MaxShadowResolution" 256 4096 kShadowResolutionLevels,
  .integer .maxWholeSceneShadowResolution "MaxWholeSceneDominantShadowResolution"
    256 4096 kWholeSceneShadowResolutionLevels,
  .real .shadowTexelsPerPixel "ShadowTexelsPerPixel" (1 / 10) 4,
  .real .fractureCullDistanceScale "FractureCullDistanceScale" (1 / 10) 2,
  .boolean .corpseCollisionWithDead "ShouldCorpseCollideWithDead",
  .boolean .corpseCollisionWithLiving "ShouldCorpseCollideWithLiving",
  .boolean .corpseCollisionAfterSleep "ShouldCorpseCollideWithDeadAfterSleep",
  .integer .particleLodBias "ParticleLODBias" 0 5 [],
  .integer .skeletalMeshLodBias "SkeletalMeshLODBias" 0 1 [],
  .real .maxDrawDistanceScale "MaxDrawDistanceScale" (4 / 5) (6 / 5),
  .real .globalShadowDistanceScale "GlobalShadowDistanceScale" (3 / 4) (3 / 2),
  .boolean .ragdollAndGoreOnDeadBodies "bAllowRagdollAndGoreOnDeadBodies",
  .boolean .depthOfField "DepthOfField",
  .boolean .lightShafts "bAllowLightShafts",
  .boolean .lensFlares "LensFlares",
  .boolean .radialBlur "AllowRadialBlur",
  .boolean .separateTranslucency "bAllowSeparateTranslucency",
  .boolean .fracturedDamage "bAllowFracturedDamage",
  .boolean .motionBlur "MotionBlur",
  .boolean .postProcessAa "PostProcessAA",
  .boolean .distanceFog "DistanceFog",
  .boolean .filteredDistortion "FilteredDistortion",
  .boolean .unbatchedDecals "UnbatchedDecals",
  .boolean .wholeSceneDominantShadows "bAllowWholeSceneDominantShadows",
  .boolean .conservativeShadowBounds "bUseConservativeShadowBounds",
  .integer .maxAnisotropy "MaxAnisotropy" 1 16 kAnisotropyLevels,
  .boolean .postProcessMlaa "bAllowPostprocessMLAA",
  .boolean .persistentSplats "AllowPersistentSplats",
  .boolean .screenSpaceReflections "AllowScreenSpaceReflections",
  .boolean .variableBlurReflections "AllowVariableBlurReflections",
  .boolean .subsurfaceScattering "AllowSubsurfaceScattering",
  .boolean .lightFunctions "AllowLightFunctions",
  .boolean .lightCones "LightCones",
  .real .destructionLifetimeScale "DestructionLifetimeScale" (1 / 10) 2,
  .boolean .explosionLights "bAllowExplosionLights",
  .real .bloodSplatSize "BloodSplatSize" 25 200,
  .real .bloodPoolSize "BloodPoolSize" 25 250,
  .real .persistentSplatTraceLength "PersistentSplatTraceLength" 100 2000,
  .real .wholeSceneShadowCutoffDistance "WholeSceneShadowCutoffDistance" 100 5000,
  .real .wholeSceneShadowFadeDistance "WholeSceneShadowFadeOutDistance" 100 5000,
  .boolean .groupedPerObjectShadows "AllowGroupedPerObjectShadows",
  .real .groupedShadowMinRadius "GroupedPerObjectShadows_MinRadius" 0 1000,
  .real .groupedShadowMaxRadius "GroupedPerObjectShadows_MaxRadius" 100 10000,
  .real .groupedShadowRampUpFactor "GroupedPerObjectShadows_RampUpFactor" (1 / 10) 4,
  .real .groupedShadowRampCutoff "GroupedPerObjectShadows_RampCutoff" 100 10000,
  .integer .maxOverlappingLights "MaxOverlappingLights" 1 32 [],
  .boolean .lightOcclusionQueries "AllowLightOcclusionQueries",
  .boolean .depthPrepass "DepthPrepass",
  .integer .reflectionDownsampleFactor "ScreenSpaceReflectionDownsampleFactor" 1 4 [],
  .real .imageGrainScale "ImageGrainScaler" (1 / 2) (75 / 2),
  .integer .depthOfFieldQuality "DepthOfFieldQuality" 0 3 kDepthOfFieldQualityLevels,
  .integer .bloomQuality "BloomQuality" 0 2 kQualityLevels,
  .integer .distanceFogQuality "DistanceFogQuality" 0 2 kQualityLevels,
  .integer .volumetricLightingMode "VolumetricLightingMode" 0 2 kQualityLevels,
  .integer .physxLevel "PhysXLevel" 0 2 kGoreLevels,
  .boolean .physicsAsyncScene "bPhysicsAsyncScene",
  .boolean .enableAsyncScene "bEnableAsyncScene",
  .integer .flexInvisibleFramesBeforeSleep "FlexInvisibleFramesBeforeSleep" 0 600 [],
  .real .flexDistanceBeforeSleep "FlexDistanceBeforeSleep" 0 10000,
  .boolean .sphFluidMipmap "AllowSPHFluidMipmap",
  .boolean .flexRigidCollisionHighLevel "FlexRigidBodiesCollisionAtHighLevel",
  .boolean .verticalSync "UseVsync",
  .boolean .oneFrameThreadLag "OneFrameThreadLag",
  .boolean .perFrameSleep "AllowPerFrameSleep",
  .boolean .perFrameYield "AllowPerFrameYield",
  .boolean .forceAffinity "ForceAffinity",
  .real .screenPercentage "ScreenPercentage" 50 200,
  .integer .motionBlurQuality "MotionBlurQuality" 0 2 kQualityLevels,
  .boolean .computeBloom "UseComputeBloom",
  .boolean .computeDepthOfField "UseComputeDepthOfField",
  .boolean .computeMotionBlur "UseComputeMotionBlur",
  .boolean .computeSsao "UseComputeSSAO",
  .boolean .computeSsr "UseComputeSSR",
  .boolean .hbao "HBAO",
  .boolean .newDepthOfField "UseNewDOF",
  .boolean .perObjectShadows "AllowPerObjectShadows",
  .boolean .hardwareShadowFiltering "bAllowHardwareShadowFiltering",
  .boolean .foregroundShadowsOnWorld "bEnableForegroundShadowsOnWorld",
  .integer .minShadowResolution "MinShadowResolution" 8 1024 kMinShadowResolutionLevels,
  .integer .shadowFadeResolution "ShadowFadeResolution" 8 1024 kShadowFadeResolutionLevels,
  .real .shadowDepthBias "ShadowDepthBias" 0 1,
  .boolean .imageReflections "AllowImageReflections",
  .boolean .imageReflectionShadowing "AllowImageReflectionShadowing",
  .real .fracturedPartsScale "NumFracturedPartsScale" 0 2,
  .real .fractureDirectSpawnChance "FractureDirectSpawnChanceScale" 0 2,
  .real .fractureRadialSpawnChance "FractureRadialSpawnChanceScale" 0 2,
  .boolean .downsampledTranslucency "bAllowDownsampledTranslucency",
  .integer .maxFilterBlurSamples "MaxFilterBlurSampleCount" 1 64 [],
  .real .motionBlurStaticScale "MotionBlurStaticScale" 0 10,
  .real .motionBlurDynamicScale "MotionBlurDynamicScale" 0 10,
  .boolean .overrideWeaponDepthOfField "OverrideDoFWeaponSettings",
  .boolean .booleanPreshadows "AllowBooleanPreshadows",
  .boolean .foregroundPreshadows "AllowForegroundPreshadows",
  .real .maxPerObjectShadowBounds "MaxPrimBoundsForPerObjectShadows" 0 10000,
  .real .foregroundProjectionDepthBias "ForegroundProjectionDepthBias" 0 5,
  .boolean .dynamicLights "DynamicLights",
  .boolean .compositeDynamicLights "CompositeDynamicLights",
  .boolean .secondaryHLighting "SHSecondaryLighting",
  .boolean .directionalLightmaps "DirectionalLightmaps",
  .boolean .motionBlurPause "MotionBlurPause",
  .integer .motionBlurSkinning "MotionBlurSkinning" 0 1 kMotionBlurSkinningLevels,
  .boolean .fogVolumes "FogVolumes",
  .boolean .floatingPointRenderTargets "FloatingPointRenderTargets",
  .boolean .onlyStreamInTextures "OnlyStreamInTextures",
  .boolean .upscaleScreenPercentage "UpscaleScreenPercentage",
  .boolean .temporalAa "bAllowTemporalAA",
  .integer .maxMultiSamples "MaxMultiSamples" 1 8 kMultiSampleLevels,
  .integer .shadowFilterQualityBias "ShadowFilterQualityBias" (-1) 1 kShadowFilterQualityLevels,
  .integer .minPreShadowResolution "MinPreShadowResolution" 8 1024 kMinPreShadowResolutionLevels,
  .integer .preShadowFadeResolution "PreShadowFadeResolution" 1 1024 [],
  .real .preShadowResolutionFactor "PreShadowResolutionFactor" (1 / 10) 2,
  .real .shadowFadeExponent "ShadowFadeExponent" 0 4,
  .real .shadowFilterRadius "ShadowFilterRadius" 0 8,
  .real .perObjectShadowTransition "PerObjectShadowTransition" 0 2000,
  .real .perSceneShadowTransition "PerSceneShadowTransition" 0 5000,
  .boolean .branchingPcfShadows "bEnableBranchingPCFShadows",
  .boolean .foregroundSelfShadowing "bEnableForegroundSelfShadowing",
  .boolean .highPrecisionGbuffers "HighPrecisionGBuffers",
  .real .tessellationPixelsPerTriangle "TessellationAdaptivePixelsPerTriangle" 1 256,
  .real .csmSplitPenumbraScale "CSMSplitPenumbraScale" 0 8,
  .real .csmSplitSoftTransitionScale "CSMSplitSoftTransitionDistanceScale" 0 16,
  .real .csmSplitDepthBiasScale "CSMSplitDepthBiasScale" 0 8,
  .real .csmMinimumFov "CSMMinimumFOV" 1 180,
  .real .csmFovRoundFactor "CSMFOVRoundFactor" 0 32,
  .real .sceneCaptureStreamingMultiplier "SceneCaptureStreamingMultiplier" (1 / 10) 4,
  .boolean .instancedRendering "InstancedRendering",
  .boolean .summedAreaTableCompute "AllowSummedAreaTableCompute",
  .boolean .histogramTechniques "AllowHistogramTechniques",
  .integer .apexDestructionChunkIslands "ApexDestructionMaxChunkIslandCount" 0 100000 [],
  .integer .apexDestructionShapeCount "ApexDestructionMaxShapeCount" 0 100000 [],
  .real .apexDestructionChunkSeparationLod "ApexDestructionMaxChunkSeparationLOD" 0 1,
  .integer .apexDestructionActorCreatesPerFrame "ApexDestructionMaxActorCreatesPerFrame"
    (-1) 10000 [],
  .integer .apexDestructionFracturesPerFrame "ApexDestructionMaxFracturesProcessedPerFrame"
    (-1) 10000 [],
  .boolean .apexDestructionSortByBenefit "ApexDestructionSortByBenefit",
  .integer .apexClothingFrequencyWindow "ApexClothingAvgSimFrequencyWindow" 1 600 [],
  .boolean .apexClothingAsyncCooking "ApexClothingAllowAsyncCooking",
  .boolean .apexClothingBetweenSubsteps "ApexClothingAllowApexWorkBetweenSubsteps",
  .boolean .apexClothingAsyncFetch "ApexClothingAsyncFetchResults",
  .boolean .disableDynamicWakeup "DisableCanBecomeDynamicWakeup",
  .real .dynamicCollisionThreshold "MakeDynamicCollisionThreshold" 0 10000,
  .integer .maxPhysicsSubsteps "MaxPhysicsSubsteps" 1 5 kPhysicsSubstepLevels,
  .real .emitterPoolScale "EmitterPoolScale" (1 / 4) 4,
  .real .physicsChunkOverrideChance "ChanceOfPhysicsChunkOverride" 0 1,
  .boolean .physicsChunkOverrideEnabled "bEnableChanceOfPhysicsChunkOverride",
  .real .fractureExplosionVelocityScale "FractureExplosionVelScale" 0 4,
  .boolean .limitExplosionChunkSize "bLimitExplosionChunkSize",
  .boolean .limitDamageChunkSize "bLimitDamageChunkSize",
  .real .maxExplosionChunkSize "MaxExplosionChunkSize" 0 10000,
  .real .maxDamageChunkSize "MaxDamageChunkSize" 0 10000,
  .boolean .textureStreaming "bUseTextureStreaming",
  .integer .texturePoolSize "PoolSize" 0 16384 [],
  .integer .textureStreamingMemoryMargin "MemoryMargin" 0 1024 [],
  .integer .textureStreamingHysteresisLimit "HysteresisLimit" 0 1000 [],
  .integer .minimumTextureResidentMips "MinTextureResidentMipCount" 1 14 [],
  .boolean .textureAsyncDefrag "bEnableAsyncDefrag",
  .boolean .textureAsyncReallocation "bEnableAsyncReallocation",
  .real .boostPlayerTextures "BoostPlayerTextures" 1 4,
  .integer .maxParticleVertexMemory "MaxParticleVertexMemory" 0 1048576 [],
  .boolean .apexWriteBufferTask "ApexEnableWriteBufferTask",
  .boolean .apexRenderResourcesGameThread "ApexUpdateRenderResourcesInGameThread",
  .integer .goreLevel "GoreLevel" 0 2 kGoreLevels,
  .real .rigidBodyGravityScale "RBPhysicsGravityScaling" (1 / 10) 2,
  .real .fracturedMeshWeaponDamage "FracturedMeshWeaponDamage" 0 4,
  .real .decalLifetime "DecalLifeSpan" 0 120,
  .boolean .backgroundLevelStreaming "bUseBackgroundLevelStreaming",
  .real .maxOcclusionPixelsFraction "MaxOcclusionPixelsFraction" 0 1,
  .integer .maxParticleResize "MaxParticleResize" 0 1048576 [],
  .integer .maxParticleResizeWarning "MaxParticleResizeWarn" 0 1048576 [],
  .boolean .checkParticleRenderSize "bCheckParticleRenderSize",
  .real .maxTrackedOcclusionIncrement "MaxTrackedOcclusionIncrement" 0 1,
  .real .trackedOcclusionStepSize "TrackedOcclusionStepSize" 0 1,
  .boolean .streamingPause "bUseStreamingPause",
  .integer .stopStreamingLimit "StopStreamingLimit" 0 64 [],
  .real .lightmapStreamingFactor "LightmapStreamingFactor" 0 4,
  .real .shadowmapStreamingFactor "ShadowmapStreamingFactor" 0 4,
  .boolean .streamingLightmaps "AllowStreamingLightmaps",
  .boolean .priorityStreaming "UsePriorityStreaming",
  .boolean .switchingStreamingSystem "bAllowSwitchingStreamingSystem",
  .boolean .dynamicStreaming "UseDynamicStreaming",
  .integer .particlePercentage "ParticlePercentage" 0 100 [],
  .real .shellEjectLifetime "ShellEjectLifetime" 0 60,
  .boolean .sprayActorLights "bAllowSprayLights",
  .boolean .pilotLights "bArePilotLightsAllowed",
  .boolean .footstepSounds "bAllowFootstepSounds",
  .real .kinematicUpdateDistanceScale "KinematicUpdateDistFactorScale" 1 3,
  .boolean .alwaysOnPhysics "bAllowAlwaysOnPhysics",
  .boolean .overrideMapWholeSceneShadow "bOverrideMapWholeSceneDominantShadowSetting"
]

def findSetting (id : SettingId) : Option SettingDefinition := allSettings.find? fun d => d.id = id

/-! ## 3. Tokens -/

/-- The key as a token, unless a character of it is none. -/
def settingToken (id : SettingId) : Bytes :=
  match findSetting id with
  | none => []
  | some definition =>
    if definition.key.all (fun u => decide (u ≤ 0x7F)) then
      definition.key.map fun u => UInt8.ofNat u.toNat
    else []

/-- A key is the token, character by character. -/
def keyIs (token : Bytes) (definition : SettingDefinition) : Bool :=
  decide (definition.key = token.map fun b => UInt16.ofNat b.toNat) &&
    definition.key.all fun u => decide (u ≤ 0x7F)

def findSettingByToken (token : Bytes) : Option SettingDefinition :=
  if token = [] ∨ 96 < token.length then none else allSettings.find? (keyIs token)

/-! ## 4. Values -/

def allowedInteger (definition : SettingDefinition) (value : ℤ) : Bool :=
  definition.allowedIntegers.isEmpty || definition.allowedIntegers.contains value

def isValidSettingValue (definition : SettingDefinition) (value : SettingValue) : Bool :=
  match definition.type, value with
  | .boolean, .bool _ => true
  | .real, .real number => decide (definition.minimum ≤ number ∧ number ≤ definition.maximum)
  | .integer, .int number =>
    decide (definition.minimum ≤ number ∧ number ≤ definition.maximum) &&
      allowedInteger definition number
  | _, _ => false

end Kf2Optimizer.Config
