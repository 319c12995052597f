/-
# The settings file

`settings.hpp` and `settings.cpp`: `parse_settings` reads lines of a key and a value each, migrates
what older versions have written, and keeps the entries it does not know; `serialize_settings` writes
the current form.  Texts are lists of bytes.

Most keys are read in one of three ways, `readBoolean`, `readInteger` and `readWord`, with the key's
own message and bounds.
-/
import Kf2Optimizer.Game.AdaptiveControlClient
import Kf2Optimizer.Lib.TextOrder

namespace Kf2Optimizer.Config

open Text Game

/-! ## 1. Settings -/

/-- `Settings`.  `extras` is a map: a list in the order of the keys. -/
structure Settings where
  schemaVersion : ℤ := 1
  adaptiveOptimizationEnabled : Bool := true
  automaticUpdateChecks : Bool := true
  overlayEnabled : Bool := true
  overlayShowFps : Bool := true
  overlayShowFrameTime : Bool := true
  overlayShowCpu : Bool := true
  overlayShowGpu : Bool := true
  overlayShowMemory : Bool := true
  debugCorpseMarkers : Bool := false
  debugZedMarkers : Bool := false
  debugFlexDiagnostics : Bool := false
  debugRuntimeDiagnostics : Bool := false
  debugCorpsePhysicsControl : Bool := false
  restoreConfigAfterGame : Bool := true
  adaptiveMinimumQuality : ℤ := 10
  adaptiveMaximumQuality : ℤ := 100
  adaptiveQualityChangeBudget : ℤ := 2
  adaptiveHeadroomPercent : ℤ := 8
  adaptiveEmergencyEnabled : Bool := true
  adaptiveQualityRecoveryEnabled : Bool := true
  adaptiveManualLocksEnabled : Bool := true
  adaptiveShadowMode : Bool := false
  adaptiveLogging : Bool := true
  overlayPosition : Bytes := ascii "top_right"
  overlayScalePercent : ℤ := 100
  targetFps : ℤ := 60
  targetFpsMigrated : Bool := false
  adaptiveQualityRangeMigrated : Bool := false
  legacyQualityPolicyMigrated : Bool := false
  corpseLimit : ℤ := 20
  manualGamePath : Bytes := []
  extras : List (Bytes × Bytes) := []
deriving DecidableEq

/-- The keys that the reader knows, in the order of its branches. -/
inductive SettingKey
  | schemaVersion | smartMode | optimizerMode | soundEnabled | animationsEnabled
  | adaptiveOptimizationEnabled | automaticUpdateChecks | guideCompleted | guideStep
  | overlayEnabled | overlayShowFps | overlayShowFrameTime | overlayShowCpu | overlayShowGpu
  | overlayShowMemory | debugCorpseMarkers | debugZedMarkers | debugFlexDiagnostics
  | debugRuntimeDiagnostics | debugCorpsePhysicsControl | restoreConfigAfterGame
  | offlineGameplayTelemetry | adaptiveEnabled | adaptiveAggressiveness | adaptiveMinimumQuality
  | adaptiveMaximumQuality | adaptiveQualityChangeBudget | adaptiveHeadroomPercent
  | adaptiveEmergencyEnabled | adaptiveQualityRecoveryEnabled | adaptiveManualLocksEnabled
  | adaptiveOnlineAllowed | adaptiveShadowMode | adaptiveCalibrationEnabled | adaptiveLogging
  | adaptiveFlexEnabled | adaptiveFlexAuto | adaptiveFlexMaxSubsteps | manualFlexSubsteps
  | overlayPosition | overlayScalePercent | targetFps | corpseLimit | manualCorpseLimit
  | manualGoreEffectLimit | qualityPolicy | optimizerProfile | manualGamePath
deriving DecidableEq

/-- A key as it is written. -/
def SettingKey.text : SettingKey → Bytes
  | schemaVersion => ascii "schema_version"
  | smartMode => ascii "smart_mode"
  | optimizerMode => ascii "optimizer_mode"
  | soundEnabled => ascii "sound_enabled"
  | animationsEnabled => ascii "animations_enabled"
  | adaptiveOptimizationEnabled => ascii "adaptive_optimization_enabled"
  | automaticUpdateChecks => ascii "automatic_update_checks"
  | guideCompleted => ascii "guide_completed"
  | guideStep => ascii "guide_step"
  | overlayEnabled => ascii "overlay_enabled"
  | overlayShowFps => ascii "overlay_show_fps"
  | overlayShowFrameTime => ascii "overlay_show_frame_time"
  | overlayShowCpu => ascii "overlay_show_cpu"
  | overlayShowGpu => ascii "overlay_show_gpu"
  | overlayShowMemory => ascii "overlay_show_memory"
  | debugCorpseMarkers => ascii "debug_corpse_markers"
  | debugZedMarkers => ascii "debug_zed_markers"
  | debugFlexDiagnostics => ascii "debug_flex_diagnostics"
  | debugRuntimeDiagnostics => ascii "debug_runtime_diagnostics"
  | debugCorpsePhysicsControl => ascii "debug_corpse_physics_control"
  | restoreConfigAfterGame => ascii "restore_config_after_game"
  | offlineGameplayTelemetry => ascii "offline_gameplay_telemetry"
  | adaptiveEnabled => ascii "adaptive_enabled"
  | adaptiveAggressiveness => ascii "adaptive_aggressiveness"
  | adaptiveMinimumQuality => ascii "adaptive_minimum_quality"
  | adaptiveMaximumQuality => ascii "adaptive_maximum_quality"
  | adaptiveQualityChangeBudget => ascii "adaptive_quality_change_budget"
  | adaptiveHeadroomPercent => ascii "adaptive_headroom_percent"
  | adaptiveEmergencyEnabled => ascii "adaptive_emergency_enabled"
  | adaptiveQualityRecoveryEnabled => ascii "adaptive_quality_recovery_enabled"
  | adaptiveManualLocksEnabled => ascii "adaptive_manual_locks_enabled"
  | adaptiveOnlineAllowed => ascii "adaptive_online_allowed"
  | adaptiveShadowMode => ascii "adaptive_shadow_mode"
  | adaptiveCalibrationEnabled => ascii "adaptive_calibration_enabled"
  | adaptiveLogging => ascii "adaptive_logging"
  | adaptiveFlexEnabled => ascii "adaptive_flex_enabled"
  | adaptiveFlexAuto => ascii "adaptive_flex_auto"
  | adaptiveFlexMaxSubsteps => ascii "adaptive_flex_max_substeps"
  | manualFlexSubsteps => ascii "manual_flex_substeps"
  | overlayPosition => ascii "overlay_position"
  | overlayScalePercent => ascii "overlay_scale_percent"
  | targetFps => ascii "target_fps"
  | corpseLimit => ascii "corpse_limit"
  | manualCorpseLimit => ascii "manual_corpse_limit"
  | manualGoreEffectLimit => ascii "manual_gore_effect_limit"
  | qualityPolicy => ascii "quality_policy"
  | optimizerProfile => ascii "optimizer_profile"
  | manualGamePath => ascii "manual_game_path"

/-- The keys in the order of the branches. -/
def SettingKey.all : List SettingKey :=
  [schemaVersion, smartMode, optimizerMode, soundEnabled, animationsEnabled,
    adaptiveOptimizationEnabled, automaticUpdateChecks, guideCompleted, guideStep, overlayEnabled,
    overlayShowFps, overlayShowFrameTime, overlayShowCpu, overlayShowGpu, overlayShowMemory,
    debugCorpseMarkers, debugZedMarkers, debugFlexDiagnostics, debugRuntimeDiagnostics,
    debugCorpsePhysicsControl, restoreConfigAfterGame, offlineGameplayTelemetry, adaptiveEnabled,
    adaptiveAggressiveness, adaptiveMinimumQuality, adaptiveMaximumQuality,
    adaptiveQualityChangeBudget, adaptiveHeadroomPercent, adaptiveEmergencyEnabled,
    adaptiveQualityRecoveryEnabled, adaptiveManualLocksEnabled, adaptiveOnlineAllowed,
    adaptiveShadowMode, adaptiveCalibrationEnabled, adaptiveLogging, adaptiveFlexEnabled,
    adaptiveFlexAuto, adaptiveFlexMaxSubsteps, manualFlexSubsteps, overlayPosition,
    overlayScalePercent, targetFps, corpseLimit, manualCorpseLimit, manualGoreEffectLimit,
    qualityPolicy, optimizerProfile, manualGamePath]

/-- The branch of a key: the first one that compares equal. -/
def SettingKey.find (key : Bytes) : Option SettingKey := all.find? fun k => decide (key = k.text)

/-! ## 2. Reading -/

/-- `parse_boolean`. -/
def parseBoolean (value : Bytes) : Option Bool :=
  if value = ascii "true" then some true
  else if value = ascii "false" then some false
  else none

/-- `safe_path_text`. -/
def safePathText (value : Bytes) : Bool :=
  decide (value.length ≤ 4096) && value.all fun ch => decide (0x20 ≤ ch) && ch != 0x3D

/-- The settings as far as they are read, and the two flags of `parse_settings`. -/
structure Draft where
  settings : Settings := {}
  schemaSeen : Bool := false
  corpseLimitSeen : Bool := false

/-- A branch that needs a boolean. -/
def readBoolean (message : String) (store : Bool → Draft) (value : Bytes) : Except String Draft :=
  match parseBoolean value with
  | some parsed => .ok (store parsed)
  | none => .error message

/-- A branch that needs a number within bounds. -/
def readInteger (message : String) (minimum maximum : ℤ) (store : ℤ → Draft) (value : Bytes) :
    Except String Draft :=
  match parseInt value with
  | some parsed =>
    if parsed < minimum ∨ maximum < parsed then .error message else .ok (store parsed)
  | none => .error message

/-- A branch that needs one of some words. -/
def readWord (message : String) (words : List Bytes) (store : Bytes → Draft) (value : Bytes) :
    Except String Draft :=
  if value ∈ words then .ok (store value) else .error message

def kTargetFpsMinimum : ℤ := 30
def kTargetFpsMaximum : ℤ := 240

/-- `corpse_limit` and `manual_corpse_limit`. -/
def readCorpseLimit (d : Draft) (value : Bytes) : Except String Draft :=
  if d.corpseLimitSeen then .error "corpse_limit is duplicated"
  else readInteger "corpse_limit is outside 0..2000" 0 2000
    (fun parsed =>
      { d with settings := { d.settings with corpseLimit := max parsed 4 }, corpseLimitSeen := true })
    value

/-- The branches of `parse_settings` for the keys that it knows. -/
def readEntry (d : Draft) (value : Bytes) : SettingKey → Except String Draft
  | .schemaVersion =>
    readInteger "Settings schema is unsupported" 1 1
      (fun parsed =>
        { d with settings := { d.settings with schemaVersion := parsed }, schemaSeen := true }) value
  | .smartMode => readBoolean "smart_mode is invalid" (fun _ => d) value
  | .optimizerMode =>
    readWord "optimizer_mode is invalid" [ascii "smart", ascii "manual", ascii "adaptive"]
      (fun _ => d) value
  | .soundEnabled => readBoolean "sound_enabled is invalid" (fun _ => d) value
  | .animationsEnabled => .ok d
  | .adaptiveOptimizationEnabled =>
    readBoolean "adaptive_optimization_enabled is invalid"
      (fun b => { d with settings := { d.settings with adaptiveOptimizationEnabled := b } }) value
  | .automaticUpdateChecks =>
    readBoolean "automatic_update_checks is invalid"
      (fun b => { d with settings := { d.settings with automaticUpdateChecks := b } }) value
  | .guideCompleted => readBoolean "guide_completed is invalid" (fun _ => d) value
  | .guideStep => readInteger "guide_step is outside 1..24" 1 24 (fun _ => d) value
  | .overlayEnabled =>
    readBoolean "overlay_enabled is invalid"
      (fun b => { d with settings := { d.settings with overlayEnabled := b } }) value
  | .overlayShowFps =>
    readBoolean "overlay_show_fps is invalid"
      (fun b => { d with settings := { d.settings with overlayShowFps := b } }) value
  | .overlayShowFrameTime =>
    readBoolean "overlay_show_frame_time is invalid"
      (fun b => { d with settings := { d.settings with overlayShowFrameTime := b } }) value
  | .overlayShowCpu =>
    readBoolean "overlay_show_cpu is invalid"
      (fun b => { d with settings := { d.settings with overlayShowCpu := b } }) value
  | .overlayShowGpu =>
    readBoolean "overlay_show_gpu is invalid"
      (fun b => { d with settings := { d.settings with overlayShowGpu := b } }) value
  | .overlayShowMemory =>
    readBoolean "overlay_show_memory is invalid"
      (fun b => { d with settings := { d.settings with overlayShowMemory := b } }) value
  | .debugCorpseMarkers =>
    readBoolean "debug_corpse_markers is invalid"
      (fun b => { d with settings := { d.settings with debugCorpseMarkers := b } }) value
  | .debugZedMarkers =>
    readBoolean "debug_zed_markers is invalid"
      (fun b => { d with settings := { d.settings with debugZedMarkers := b } }) value
  | .debugFlexDiagnostics =>
    readBoolean "debug_flex_diagnostics is invalid"
      (fun b => { d with settings := { d.settings with debugFlexDiagnostics := b } }) value
  | .debugRuntimeDiagnostics =>
    readBoolean "debug_runtime_diagnostics is invalid"
      (fun b => { d with settings := { d.settings with debugRuntimeDiagnostics := b } }) value
  | .debugCorpsePhysicsControl =>
    readBoolean "debug_corpse_physics_control is invalid"
      (fun b => { d with settings := { d.settings with debugCorpsePhysicsControl := b } }) value
  | .restoreConfigAfterGame =>
    readBoolean "restore_config_after_game is invalid"
      (fun b => { d with settings := { d.settings with restoreConfigAfterGame := b } }) value
  | .offlineGameplayTelemetry =>
    readBoolean "offline_gameplay_telemetry is invalid" (fun _ => d) value
  | .adaptiveEnabled => readBoolean "adaptive_enabled is invalid" (fun _ => d) value
  | .adaptiveAggressiveness =>
    readWord "adaptive_aggressiveness is invalid"
      [ascii "conservative", ascii "balanced", ascii "aggressive"] (fun _ => d) value
  | .adaptiveMinimumQuality =>
    readInteger "adaptive_minimum_quality is outside 10..100" 10 100
      (fun n => { d with settings := { d.settings with adaptiveMinimumQuality := n } }) value
  | .adaptiveMaximumQuality =>
    readInteger "adaptive_maximum_quality is outside 0..100" 0 100
      (fun n => { d with settings := { d.settings with adaptiveMaximumQuality := n } }) value
  | .adaptiveQualityChangeBudget =>
    readInteger "adaptive_quality_change_budget is outside 1..5" 1 5
      (fun n => { d with settings := { d.settings with adaptiveQualityChangeBudget := n } }) value
  | .adaptiveHeadroomPercent =>
    readInteger "adaptive_headroom_percent is outside 0..50" 0 50
      (fun n => { d with settings := { d.settings with adaptiveHeadroomPercent := n } }) value
  | .adaptiveEmergencyEnabled =>
    readBoolean "adaptive_emergency_enabled is invalid"
      (fun b => { d with settings := { d.settings with adaptiveEmergencyEnabled := b } }) value
  | .adaptiveQualityRecoveryEnabled =>
    readBoolean "adaptive_quality_recovery_enabled is invalid"
      (fun b => { d with settings := { d.settings with adaptiveQualityRecoveryEnabled := b } }) value
  | .adaptiveManualLocksEnabled =>
    readBoolean "adaptive_manual_locks_enabled is invalid"
      (fun b => { d with settings := { d.settings with adaptiveManualLocksEnabled := b } }) value
  | .adaptiveOnlineAllowed => readBoolean "adaptive_online_allowed is invalid" (fun _ => d) value
  | .adaptiveShadowMode => readBoolean "adaptive_shadow_mode is invalid" (fun _ => d) value
  | .adaptiveCalibrationEnabled =>
    readBoolean "adaptive_calibration_enabled is invalid" (fun _ => d) value
  | .adaptiveLogging =>
    readBoolean "adaptive_logging is invalid"
      (fun b => { d with settings := { d.settings with adaptiveLogging := b } }) value
  | .adaptiveFlexEnabled => readBoolean "adaptive_flex_enabled is invalid" (fun _ => d) value
  | .adaptiveFlexAuto => readBoolean "adaptive_flex_auto is invalid" (fun _ => d) value
  | .adaptiveFlexMaxSubsteps =>
    readInteger "adaptive_flex_max_substeps is outside 1..5" 1 5 (fun _ => d) value
  | .manualFlexSubsteps =>
    readInteger "manual_flex_substeps is outside 1..5" 1 5 (fun _ => d) value
  | .overlayPosition =>
    readWord "overlay_position is invalid"
      [ascii "top_left", ascii "top_right", ascii "bottom_left", ascii "bottom_right"]
      (fun word => { d with settings := { d.settings with overlayPosition := word } }) value
  | .overlayScalePercent =>
    readInteger "overlay_scale_percent is outside 60..200" 60 200
      (fun n => { d with settings := { d.settings with overlayScalePercent := n } }) value
  | .targetFps =>
    readInteger "target_fps is outside supported input 30..360" kTargetFpsMinimum 360
      (fun n => { d with settings := { d.settings with
        targetFpsMigrated := decide (kTargetFpsMaximum < n)
        targetFps := min n kTargetFpsMaximum } }) value
  | .corpseLimit => readCorpseLimit d value
  | .manualCorpseLimit => readCorpseLimit d value
  | .manualGoreEffectLimit =>
    readInteger "manual_gore_effect_limit is outside 0..128" 0 128 (fun _ => d) value
  | .qualityPolicy =>
    readWord "quality_policy is invalid" [ascii "exact", ascii "invisible", ascii "performance"]
      (fun _ => { d with settings := { d.settings with legacyQualityPolicyMigrated := true } }) value
  | .optimizerProfile => .ok d
  | .manualGamePath =>
    if safePathText value then
      .ok { d with settings := { d.settings with manualGamePath := value } }
    else .error "manual_game_path is invalid"

/-- One line of the loop of `parse_settings`, with the keys seen before. -/
def readLine (state : Draft × List Bytes) (text : Bytes) : Except String (Draft × List Bytes) :=
  let line := stripCr text
  if line = [] then .ok state
  else match cut 0x3D line with
    | none => .error "Settings line is malformed"
    | some (key, value) =>
      if key = [] then .error "Settings line is malformed"
      else if key ∈ state.2 then .error "Settings key is duplicated"
      else match SettingKey.find key with
        | some known => (readEntry state.1 value known).map fun d => (d, key :: state.2)
        | none =>
          .ok ({ state.1 with settings :=
            { state.1.settings with extras := emplace key value state.1.settings.extras } },
            key :: state.2)

/-- `legacy_quality_floor`. -/
def legacyQualityFloor (settings : Settings) (seen : List Bytes) : Bool :=
  decide (settings.adaptiveMinimumQuality = 70) &&
    [SettingKey.animationsEnabled, .offlineGameplayTelemetry, .adaptiveShadowMode,
      .optimizerProfile].all fun k => decide (k.text ∈ seen)

/-- What `parse_settings` does behind its loop. -/
def finish (state : Draft × List Bytes) : Except String Settings :=
  if !state.1.schemaSeen then .error "Settings schema is missing"
  else
    let settings := if legacyQualityFloor state.1.settings state.2 then
      { state.1.settings with adaptiveMinimumQuality := 10, adaptiveQualityRangeMigrated := true }
    else state.1.settings
    if settings.adaptiveMaximumQuality < settings.adaptiveMinimumQuality then
      .error "adaptive minimum quality exceeds maximum quality"
    else .ok settings

/-- `parse_settings`. -/
def parseSettings (text : Bytes) : Except String Settings := do
  let state ← (splitOn lf text).foldlM readLine ({}, [])
  finish state

/-! ## 3. Writing -/

def booleanText (b : Bool) : Bytes := if b then ascii "true" else ascii "false"

/-- An `int` on a stream. -/
def integerText (n : ℤ) : Bytes := if n < 0 then 0x2D :: decimal n.natAbs else decimal n.natAbs

/-- The entries that are always written, in their order. -/
def storedEntries (s : Settings) : List (SettingKey × Bytes) :=
  [(.schemaVersion, integerText s.schemaVersion),
    (.optimizerMode, ascii "adaptive"),
    (.adaptiveOptimizationEnabled, booleanText s.adaptiveOptimizationEnabled),
    (.automaticUpdateChecks, booleanText s.automaticUpdateChecks),
    (.overlayEnabled, booleanText s.overlayEnabled),
    (.overlayShowFps, booleanText s.overlayShowFps),
    (.overlayShowFrameTime, booleanText s.overlayShowFrameTime),
    (.overlayShowCpu, booleanText s.overlayShowCpu),
    (.overlayShowGpu, booleanText s.overlayShowGpu),
    (.overlayShowMemory, booleanText s.overlayShowMemory),
    (.debugCorpseMarkers, booleanText s.debugCorpseMarkers),
    (.debugZedMarkers, booleanText s.debugZedMarkers),
    (.debugFlexDiagnostics, booleanText s.debugFlexDiagnostics),
    (.debugRuntimeDiagnostics, booleanText s.debugRuntimeDiagnostics),
    (.debugCorpsePhysicsControl, booleanText s.debugCorpsePhysicsControl),
    (.restoreConfigAfterGame, booleanText s.restoreConfigAfterGame),
    (.adaptiveMinimumQuality, integerText s.adaptiveMinimumQuality),
    (.adaptiveMaximumQuality, integerText s.adaptiveMaximumQuality),
    (.adaptiveQualityChangeBudget, integerText s.adaptiveQualityChangeBudget),
    (.adaptiveHeadroomPercent, integerText s.adaptiveHeadroomPercent),
    (.adaptiveEmergencyEnabled, booleanText s.adaptiveEmergencyEnabled),
    (.adaptiveQualityRecoveryEnabled, booleanText s.adaptiveQualityRecoveryEnabled),
    (.adaptiveManualLocksEnabled, booleanText s.adaptiveManualLocksEnabled),
    (.adaptiveLogging, booleanText s.adaptiveLogging),
    (.overlayPosition, s.overlayPosition),
    (.overlayScalePercent, integerText s.overlayScalePercent),
    (.targetFps, integerText s.targetFps),
    (.corpseLimit, integerText s.corpseLimit)]

/-- The path is written when there is one. -/
def pathEntries (s : Settings) : List (SettingKey × Bytes) :=
  if s.manualGamePath = [] then [] else [(.manualGamePath, s.manualGamePath)]

/-- `serialize_settings`. -/
def serializeSettings (s : Settings) : Bytes :=
  keyed (((storedEntries s ++ pathEntries s).map fun e => (e.1.text, e.2)) ++ s.extras)

end Kf2Optimizer.Config
