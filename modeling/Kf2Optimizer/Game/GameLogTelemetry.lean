/-
# The telemetry line

`game_log_telemetry.cpp`: the one line that carries a whole sample of measurements.  Its columns
are positional, so the line is read along a table, `layout`, of the columns in their order with
their names and bounds.  A sample replaces every measurement of the session; a sample taken
without the diagnostic scan forgets the measurements that only the scan makes.
-/
import Kf2Optimizer.Game.GameLogSession

namespace Kf2Optimizer.Game

open Text

/-! ## 1. The columns -/

/-- A column of the line: a measurement, or whether the diagnostic scan ran. -/
inductive Column where
  | scan | of (field : TelemetryField)
deriving DecidableEq

def entityMax : ℕ := 100000
def aggregateMax : ℕ := 100000000
def runtimeMax : ℕ := 1000000000

/-- The columns with their names and the greatest value each may have. -/
def layout : List (Column × String × ℕ) :=
  [(.of .sample, "sample", 2147483647), (.scan, "scan_diagnostics", 1),
    (.of .livingZeds, "living", entityMax), (.of .livingClasses, "living_classes", entityMax),
    (.of .livingBosses, "living_bosses", entityMax),
    (.of .livingVisible, "living_visible", entityMax),
    (.of .livingOffscreen, "living_offscreen", entityMax),
    (.of .livingLodTotal, "living_lod_total", aggregateMax),
    (.of .livingAnimRateTotal, "living_anim_rate_total", aggregateMax),
    (.of .livingInjuredZones, "living_injured_zones", aggregateMax),
    (.of .livingRequiredBones, "living_required_bones", aggregateMax),
    (.of .livingMaterialSlots, "living_material_slots", aggregateMax),
    (.of .livingAttachments, "living_attachments", aggregateMax),
    (.of .livingAnimSkipped, "living_anim_skipped", entityMax),
    (.of .livingBoneAtomsSkipped, "living_bone_atoms_skipped", entityMax),
    (.of .livingBoneInterpolation, "living_bone_interpolation", entityMax),
    (.of .livingKinematicDistanceSkipped, "living_kinematic_distance_skipped", entityMax),
    (.of .livingTicksOffscreen, "living_ticks_offscreen", entityMax),
    (.of .livingUpdatesSkeletonOffscreen, "living_updates_skeleton_offscreen", entityMax),
    (.of .livingSpecialMoves, "living_special_moves", entityMax),
    (.of .livingAttackMoves, "living_attack_moves", entityMax),
    (.of .livingGrappleMoves, "living_grapple_moves", entityMax),
    (.of .livingStumbles, "living_stumbles", entityMax),
    (.of .livingKnockdowns, "living_knockdowns", entityMax),
    (.of .livingHitReactions, "living_hit_reactions", entityMax),
    (.of .livingOtherSpecialMoves, "living_other_special_moves", entityMax),
    (.of .corpseTotal, "corpse_total", 100000), (.of .corpseAwake, "corpse_awake", 100000),
    (.of .corpseSleeping, "corpse_sleeping", 100000), (.of .corpseOther, "corpse_other", 100000),
    (.of .corpseFinalPose, "corpse_final", entityMax),
    (.of .corpseVisible, "corpse_visible", entityMax),
    (.of .corpseOffscreen, "corpse_offscreen", entityMax),
    (.of .corpseLodTotal, "corpse_lod_total", aggregateMax),
    (.of .corpseInjuredZones, "corpse_injured_zones", aggregateMax),
    (.of .corpseMaxAgeMs, "corpse_max_age_ms", runtimeMax),
    (.of .corpseLimit, "corpse_limit", runtimeMax),
    (.of .corpseOffscreenTimeMs, "corpse_offscreen_time_ms", runtimeMax),
    (.of .corpseOffscreenDistance, "corpse_offscreen_distance", runtimeMax),
    (.of .dismemberedCorpses, "dismembered", 100000),
    (.of .dismemberedLimbs, "dismembered_limbs", aggregateMax),
    (.of .ragdollWarnedCorpses, "ragdoll_warned", entityMax),
    (.of .ragdollWarningMax, "ragdoll_warning_max", 255),
    (.of .corpseCollideDead, "corpse_collide_dead", 1),
    (.of .corpseCollideLiving, "corpse_collide_living", 1),
    (.of .corpseCollideDeadAfterSleep, "corpse_collide_dead_after_sleep", 1),
    (.of .corpseCollideLivingAfterSleep, "corpse_collide_living_after_sleep", 1),
    (.of .visibleGibs, "gibs", 100000), (.of .zedTimeActive, "zed_time", 1),
    (.of .sprayActors, "spray_actors", entityMax),
    (.of .fireSprayActors, "fire_spray_actors", entityMax),
    (.of .toxicSprayActors, "toxic_spray_actors", entityMax),
    (.of .otherSprayActors, "other_spray_actors", entityMax),
    (.of .explosionActors, "explosion_actors", entityMax),
    (.of .damagingExplosionActors, "damaging_explosion_actors", entityMax),
    (.of .fireExplosionActors, "fire_explosion_actors", entityMax),
    (.of .toxicExplosionActors, "toxic_explosion_actors", entityMax),
    (.of .otherDamagingExplosionActors, "other_damaging_explosion_actors", entityMax),
    (.of .unclassifiedExplosionActors, "unclassified_explosion_actors", entityMax),
    (.of .lingeringExplosionActors, "lingering_explosion_actors", entityMax),
    (.of .smokeExplosionActors, "smoke_explosion_actors", entityMax),
    (.of .bloatKingFartExplosionActors, "bloat_king_fart_explosion_actors", entityMax),
    (.of .smokeGrenadeProjectiles, "smoke_grenade_projectiles", entityMax),
    (.of .pukeMineProjectiles, "puke_mine_projectiles", entityMax),
    (.of .bloatKingPukeMineProjectiles, "bloat_king_puke_mine_projectiles", entityMax),
    (.of .woundDecals, "wound_decals", 100000), (.of .splatterDecals, "splatter_decals", 100000),
    (.of .poolDecals, "pool_decals", entityMax), (.of .impactDecals, "impact_decals", entityMax),
    (.of .explosionDecals, "explosion_decals", entityMax),
    (.of .woundDecalLimit, "wound_decal_limit", runtimeMax),
    (.of .splatterDecalLimit, "splatter_decal_limit", runtimeMax),
    (.of .poolDecalLimit, "pool_decal_limit", runtimeMax),
    (.of .impactDecalLimit, "impact_decal_limit", runtimeMax),
    (.of .explosionDecalLimit, "explosion_decal_limit", runtimeMax),
    (.of .bloodEffectLimit, "blood_effect_limit", runtimeMax),
    (.of .goreEffectLimit, "gore_effect_limit", runtimeMax),
    (.of .woundLifetimeMs, "wound_lifetime_ms", runtimeMax),
    (.of .splatterLifetimeMs, "splatter_lifetime_ms", runtimeMax),
    (.of .poolLifetimeMs, "pool_lifetime_ms", runtimeMax),
    (.of .gibLifetimeMs, "gib_lifetime_ms", runtimeMax),
    (.of .goreParticleComponents, "gore_particle_components", entityMax),
    (.of .goreParticles, "gore_particles", aggregateMax),
    (.of .goreParticleVisibleComponents, "gore_particle_visible_components", entityMax),
    (.of .goreParticleLodTotal, "gore_particle_lod_total", aggregateMax),
    (.of .goreParticleBoundedComponents, "gore_particle_bounded_components", entityMax),
    (.of .worldParticleComponents, "world_particle_components", entityMax),
    (.of .worldParticles, "world_particles", aggregateMax),
    (.of .worldParticleVisibleComponents, "world_particle_visible_components", entityMax),
    (.of .worldParticleLodTotal, "world_particle_lod_total", aggregateMax),
    (.of .worldParticleBoundedComponents, "world_particle_bounded_components", entityMax),
    (.of .groundFireParticleComponents, "ground_fire_particle_components", entityMax),
    (.of .groundFireParticles, "ground_fire_particles", aggregateMax),
    (.of .impactParticleComponents, "impact_particle_components", entityMax),
    (.of .impactParticles, "impact_particles", aggregateMax),
    (.of .goreParticlePeakCapacity, "gore_particle_peak_capacity", runtimeMax),
    (.of .worldParticlePeakCapacity, "world_particle_peak_capacity", runtimeMax),
    (.of .goreParticlePeakCoveredComponents, "gore_particle_peak_covered_components", entityMax),
    (.of .worldParticlePeakCoveredComponents, "world_particle_peak_covered_components", entityMax),
    (.of .groundFireParticlePoolCapacity, "ground_fire_particle_pool_capacity", runtimeMax),
    (.of .impactParticlePoolCapacity, "impact_particle_pool_capacity", runtimeMax),
    (.of .particleConstantSpawnEmitters, "particle_constant_spawn_emitters", aggregateMax),
    (.of .particleDynamicSpawnEmitters, "particle_dynamic_spawn_emitters", aggregateMax),
    (.of .particleConstantSpawnRateMilli, "particle_constant_spawn_rate_milli", runtimeMax),
    (.of .particleBurstEntries, "particle_burst_entries", runtimeMax),
    (.of .particlePeakCapacity, "particle_peak_capacity", runtimeMax),
    (.of .particleFlexComponents, "particle_flex_components", entityMax),
    (.of .particleFlexFluidComponents, "particle_flex_fluid_components", entityMax),
    (.of .particleFlexNonfluidComponents, "particle_flex_nonfluid_components", entityMax),
    (.of .particleFlexMixedComponents, "particle_flex_mixed_components", entityMax),
    (.of .particleNonflexComponents, "particle_nonflex_components", entityMax),
    (.of .particleUnclassifiedComponents, "particle_unclassified_components", entityMax),
    (.of .flexSurrogateActive, "flex_surrogate_active", 1),
    (.of .flexSurrogateParticles, "flex_surrogate_particles", aggregateMax),
    (.of .flexSurrogateVisible, "flex_surrogate_visible", 1),
    (.of .flexSurrogateLod, "flex_surrogate_lod", entityMax)]

/-- The measurements that only the diagnostic scan makes. -/
def diagnosticFields : List TelemetryField :=
  [.livingClasses, .livingBosses, .livingLodTotal, .livingAnimRateTotal, .livingInjuredZones,
    .livingRequiredBones, .livingMaterialSlots, .livingAttachments, .livingAnimSkipped,
    .livingBoneAtomsSkipped, .livingBoneInterpolation, .livingKinematicDistanceSkipped,
    .livingTicksOffscreen, .livingUpdatesSkeletonOffscreen, .livingSpecialMoves, .livingAttackMoves,
    .livingGrappleMoves, .livingStumbles, .livingKnockdowns, .livingHitReactions,
    .livingOtherSpecialMoves, .corpseFinalPose, .corpseLodTotal, .corpseInjuredZones,
    .corpseMaxAgeMs, .dismemberedCorpses, .dismemberedLimbs, .ragdollWarnedCorpses,
    .ragdollWarningMax, .visibleGibs, .sprayActors, .fireSprayActors, .toxicSprayActors,
    .otherSprayActors, .explosionActors, .damagingExplosionActors, .fireExplosionActors,
    .toxicExplosionActors, .otherDamagingExplosionActors, .unclassifiedExplosionActors,
    .lingeringExplosionActors, .smokeExplosionActors, .bloatKingFartExplosionActors,
    .smokeGrenadeProjectiles, .pukeMineProjectiles, .bloatKingPukeMineProjectiles]

/-- `OfflineTelemetrySnapshot`. -/
structure OfflineTelemetrySnapshot where
  scanDiagnostics : Bool
  value : TelemetryField → ℕ

/-! ## 2. Reading -/

/-- `take`: a number between 0 and a bound. -/
def takeNumber (text : Bytes) (maximum : ℕ) : Option ℕ :=
  (parseIntUpTo maximum text).map Int.toNat

/-- The columns of a line, each up to the name of the next. -/
def readColumns : List (Column × String × ℕ) → Bytes → Option (List (Column × ℕ))
  | [], _ => some []
  | [(column, _, maximum)], payload => do
    let value ← takeNumber payload maximum
    some [(column, value)]
  | (column, _, maximum) :: (next, name, bound) :: rest, payload => do
    let (text, payload) ← search (ascii (" " ++ name ++ "=")) payload
    let value ← takeNumber text maximum
    let values ← readColumns ((next, name, bound) :: rest) payload
    some ((column, value) :: values)

/-- The counts of a sample fit together. -/
def consistent (v : TelemetryField → ℕ) : Bool :=
  decide (0 < v .sample ∧
    v .livingClasses ≤ v .livingZeds ∧ v .livingBosses ≤ v .livingZeds ∧
    v .livingAnimSkipped ≤ v .livingZeds ∧ v .livingBoneAtomsSkipped ≤ v .livingZeds ∧
    v .livingBoneInterpolation ≤ v .livingZeds ∧
    v .livingKinematicDistanceSkipped ≤ v .livingZeds ∧
    v .livingTicksOffscreen ≤ v .livingZeds ∧
    v .livingUpdatesSkeletonOffscreen ≤ v .livingZeds ∧
    v .livingSpecialMoves ≤ v .livingZeds ∧
    v .livingAttackMoves + v .livingGrappleMoves + v .livingStumbles + v .livingKnockdowns +
      v .livingHitReactions + v .livingOtherSpecialMoves = v .livingSpecialMoves ∧
    v .livingVisible + v .livingOffscreen ≤ v .livingZeds) &&
  decide (v .corpseAwake ≤ v .corpseTotal ∧ v .corpseSleeping ≤ v .corpseTotal ∧
    v .corpseOther ≤ v .corpseTotal ∧ v .corpseFinalPose ≤ v .corpseTotal ∧
    v .dismemberedCorpses ≤ v .corpseTotal ∧ v .ragdollWarnedCorpses ≤ v .corpseTotal ∧
    (v .ragdollWarnedCorpses = 0 → v .ragdollWarningMax = 0) ∧
    v .corpseVisible ≤ v .corpseTotal ∧ v .corpseOffscreen ≤ v .corpseTotal ∧
    v .corpseVisible + v .corpseOffscreen ≤ v .corpseTotal ∧
    v .corpseAwake + v .corpseSleeping + v .corpseOther = v .corpseTotal) &&
  decide (v .sprayActors = v .fireSprayActors + v .toxicSprayActors + v .otherSprayActors ∧
    v .explosionActors = v .damagingExplosionActors + v .unclassifiedExplosionActors ∧
    v .damagingExplosionActors = v .fireExplosionActors + v .toxicExplosionActors +
      v .otherDamagingExplosionActors ∧
    v .lingeringExplosionActors ≤ v .explosionActors ∧
    v .smokeExplosionActors ≤ v .explosionActors ∧
    v .bloatKingFartExplosionActors ≤ v .lingeringExplosionActors ∧
    v .bloatKingPukeMineProjectiles ≤ v .pukeMineProjectiles) &&
  decide (v .goreParticleVisibleComponents ≤ v .goreParticleComponents ∧
    v .goreParticleBoundedComponents ≤ v .goreParticleComponents ∧
    v .worldParticleVisibleComponents ≤ v .worldParticleComponents ∧
    v .worldParticleBoundedComponents ≤ v .worldParticleComponents ∧
    v .groundFireParticleComponents ≤ v .worldParticleComponents ∧
    v .groundFireParticles ≤ v .worldParticles ∧
    v .impactParticleComponents ≤ v .worldParticleComponents ∧
    v .impactParticles ≤ v .worldParticles ∧
    v .groundFireParticles + v .impactParticles ≤ v .worldParticles ∧
    v .goreParticlePeakCoveredComponents ≤ v .goreParticleComponents ∧
    v .worldParticlePeakCoveredComponents ≤ v .worldParticleComponents ∧
    v .groundFireParticleComponents + v .impactParticleComponents ≤
      v .worldParticleComponents ∧
    (0 < v .groundFireParticlePoolCapacity →
      v .groundFireParticleComponents ≤ v .groundFireParticlePoolCapacity) ∧
    (0 < v .impactParticlePoolCapacity →
      v .impactParticleComponents ≤ v .impactParticlePoolCapacity) ∧
    v .particlePeakCapacity =
      min runtimeMax (v .goreParticlePeakCapacity + v .worldParticlePeakCapacity) ∧
    v .particleFlexFluidComponents + v .particleFlexNonfluidComponents +
      v .particleFlexMixedComponents = v .particleFlexComponents ∧
    v .particleFlexComponents + v .particleNonflexComponents +
      v .particleUnclassifiedComponents =
        v .goreParticleComponents + v .worldParticleComponents)

/-- The value read for a column. -/
def valueOf (values : List (Column × ℕ)) (column : Column) : ℕ := (values.lookup column).getD 0

/-- `parse_offline_telemetry_line`. -/
def parseOfflineTelemetryLine (line : Bytes) : Option OfflineTelemetrySnapshot := do
  let (_, payload) ← search (ascii "KF2OPT_TELEMETRY schema=8 sample=") line
  let values ← readColumns layout payload
  let value (field : TelemetryField) : ℕ := valueOf values (.of field)
  if consistent value = true then some ⟨decide (valueOf values .scan ≠ 0), value⟩ else none

/-! ## 3. Taking a sample over -/

/-- What a sample leaves in a field: `update`, or `reset` where the scan did not run. -/
def OfflineTelemetrySnapshot.field (telemetry : OfflineTelemetrySnapshot) (f : TelemetryField) :
    Option ℕ :=
  if f ∈ diagnosticFields ∧ telemetry.scanDiagnostics = false then none
  else some (telemetry.value f)

/-- `apply_offline_telemetry_snapshot`, and whether a field changed. -/
def applyOfflineTelemetrySnapshot (session : GameLogSession)
    (telemetry : OfflineTelemetrySnapshot) : GameLogSession × Bool :=
  ({ session with telemetry := telemetry.field },
    decide (session.telemetry ≠ (telemetry.field : Telemetry)))

/-- `apply_offline_telemetry_line`. -/
def applyOfflineTelemetryLine (session : GameLogSession) (line : Bytes) (observedAtNs : ℕ) :
    Option (GameLogSession × Bool) := do
  let telemetry ← parseOfflineTelemetryLine line
  let (session', valueChanged) := applyOfflineTelemetrySnapshot session telemetry
  let observationRefreshed :=
    decide (observedAtNs ≠ 0 ∧ session.telemetryObservedNs ≠ observedAtNs)
  some ({ session' with
      telemetryObservedNs :=
        if observedAtNs ≠ 0 then observedAtNs else session.telemetryObservedNs },
    valueChanged || observationRefreshed)

/-- The sample number is always kept. -/
theorem field_sample (telemetry : OfflineTelemetrySnapshot) :
    telemetry.field .sample = some (telemetry.value .sample) := by
  rw [OfflineTelemetrySnapshot.field, if_neg]
  rintro ⟨hmem, -⟩
  revert hmem
  decide

end Kf2Optimizer.Game
