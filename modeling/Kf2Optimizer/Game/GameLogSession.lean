/-
# What the game's log says about the session

`game_log_session.hpp` and the line readers of `game_log_parsing.cpp`: the session that the log
parser maintains, and one function for each kind of line it knows.  A line is a list of bytes
without its terminator.  A measured `double` is its value: the readers reject what is not finite,
and the parser only compares the values with each other.
-/
import Kf2Optimizer.Lib.Double
import Kf2Optimizer.Game.AdaptiveControlClient

namespace Kf2Optimizer.Game

open Text

/-! ## 1. The session -/

/-- `GameLogPhase`. -/
inductive GameLogPhase where
  | mapLoaded | mainMenu | matchEnded
deriving DecidableEq

/-- `GameplayUiContext`. -/
inductive GameplayUiContext where
  | gameplay | menu | trader | unavailable
deriving DecidableEq

/-- The measurements of one telemetry line that a session keeps, its `telemetry_` fields. -/
inductive TelemetryField where
  | sample | livingZeds | livingClasses | livingBosses | livingVisible | livingOffscreen
  | livingLodTotal | livingAnimRateTotal | livingInjuredZones | livingRequiredBones
  | livingMaterialSlots | livingAttachments | livingAnimSkipped | livingBoneAtomsSkipped
  | livingBoneInterpolation | livingKinematicDistanceSkipped | livingTicksOffscreen
  | livingUpdatesSkeletonOffscreen | livingSpecialMoves | livingAttackMoves | livingGrappleMoves
  | livingStumbles | livingKnockdowns | livingHitReactions | livingOtherSpecialMoves | corpseTotal
  | corpseAwake | corpseSleeping | corpseOther | corpseFinalPose | corpseVisible | corpseOffscreen
  | corpseLodTotal | corpseInjuredZones | corpseMaxAgeMs | corpseLimit | corpseOffscreenTimeMs
  | corpseOffscreenDistance | dismemberedCorpses | dismemberedLimbs | ragdollWarnedCorpses
  | ragdollWarningMax | corpseCollideDead | corpseCollideLiving | corpseCollideDeadAfterSleep
  | corpseCollideLivingAfterSleep | visibleGibs | zedTimeActive | sprayActors | fireSprayActors
  | toxicSprayActors | otherSprayActors | explosionActors | damagingExplosionActors
  | fireExplosionActors | toxicExplosionActors | otherDamagingExplosionActors
  | unclassifiedExplosionActors | lingeringExplosionActors | smokeExplosionActors
  | bloatKingFartExplosionActors | smokeGrenadeProjectiles | pukeMineProjectiles
  | bloatKingPukeMineProjectiles | woundDecals | splatterDecals | poolDecals | impactDecals
  | explosionDecals | woundDecalLimit | splatterDecalLimit | poolDecalLimit | impactDecalLimit
  | explosionDecalLimit | bloodEffectLimit | goreEffectLimit | woundLifetimeMs | splatterLifetimeMs
  | poolLifetimeMs | gibLifetimeMs | goreParticleComponents | goreParticles
  | goreParticleVisibleComponents | goreParticleLodTotal | goreParticleBoundedComponents
  | worldParticleComponents | worldParticles | worldParticleVisibleComponents
  | worldParticleLodTotal | worldParticleBoundedComponents | groundFireParticleComponents
  | groundFireParticles | impactParticleComponents | impactParticles | goreParticlePeakCapacity
  | worldParticlePeakCapacity | goreParticlePeakCoveredComponents
  | worldParticlePeakCoveredComponents | groundFireParticlePoolCapacity
  | impactParticlePoolCapacity | particleConstantSpawnEmitters | particleDynamicSpawnEmitters
  | particleConstantSpawnRateMilli | particleBurstEntries | particlePeakCapacity
  | particleFlexComponents | particleFlexFluidComponents | particleFlexNonfluidComponents
  | particleFlexMixedComponents | particleNonflexComponents | particleUnclassifiedComponents
  | flexSurrogateActive | flexSurrogateParticles | flexSurrogateVisible | flexSurrogateLod
deriving DecidableEq

/-- The measurements a session holds.  A flag is 0 or 1. -/
abbrev Telemetry := TelemetryField → Option ℕ

theorem TelemetryField.ctorIdx_lt (f : TelemetryField) : f.ctorIdx < 115 := by
  cases f <;> decide

instance : DecidableEq Telemetry := fun a b =>
  decidable_of_iff (∀ n : Fin 115, a (.ofNat n) = b (.ofNat n)) <| by
    constructor
    · intro h
      funext f
      have hf := h ⟨f.ctorIdx, f.ctorIdx_lt⟩
      rwa [TelemetryField.ofNat_ctorIdx] at hf
    · intro h n
      rw [h]

/-- `GameLogSession`. -/
structure GameLogSession where
  map : Bytes := []
  gameClass : Option Bytes := none
  difficulty : Option ℚ := none
  gameLength : Option ℤ := none
  netMode : Option Bytes := none
  optimizerOnlineReadOnly : Bool := false
  optimizerSessionContextObservedNs : ℕ := 0
  optimizerSessionGeneration : Option ℕ := none
  onlineCorpsePool : Option ℤ := none
  onlineCorpseMaximum : Option ℤ := none
  onlineCorpseSleepVerified : Bool := false
  onlineCorpseCapacityVerified : Bool := false
  onlineCorpseFreezeVerified : Bool := false
  onlineCorpseRestoreVerified : Bool := false
  onlineCorpseLodVerified : Bool := false
  onlineCorpseSkeletonVerified : Bool := false
  onlineCorpseCapabilityObservedNs : ℕ := 0
  onlineCorpseActionObservedNs : ℕ := 0
  zedsRemaining : Option ℤ := none
  zedsAlive : Option ℤ := none
  waveNumber : Option ℤ := none
  waveTotalAi : Option ℤ := none
  telemetry : Telemetry := fun _ => none
  telemetryControlPort : Option ℕ := none
  gameplayUiContext : Option GameplayUiContext := none
  gameplayUiContextRevision : ℕ := 0
  gameplayUiContextMap : Option Bytes := none
  gameplayUiContextGeneration : Option ℕ := none
  levelLoadSeconds : Option ℚ := none
  streamAllResourcesSeconds : Option ℚ := none
  loadingMovieSeconds : Option ℚ := none
  loadMapObservedNs : ℕ := 0
  levelLoadedObservedNs : ℕ := 0
  loadingMovieFinishedObservedNs : ℕ := 0
  zedsRemainingObservedNs : ℕ := 0
  zedsAliveObservedNs : ℕ := 0
  waveObservedNs : ℕ := 0
  telemetryObservedNs : ℕ := 0
  phase : GameLogPhase := .mapLoaded
  mainMenu : Bool := false
  loadingMovieActive : Bool := false
deriving DecidableEq

/-- `clear_offline_telemetry_snapshot`. -/
def clearOfflineTelemetrySnapshot (session : GameLogSession) : GameLogSession :=
  { session with telemetry := fun _ => none, telemetryObservedNs := 0 }

/-- `clear_gameplay_snapshot`. -/
def clearGameplaySnapshot (session : GameLogSession) : GameLogSession :=
  clearOfflineTelemetrySnapshot { session with
    telemetryControlPort := none
    zedsRemaining := none
    zedsAlive := none
    waveNumber := none
    waveTotalAi := none
    gameplayUiContext := none
    gameplayUiContextMap := none
    gameplayUiContextGeneration := none
    zedsRemainingObservedNs := 0
    zedsAliveObservedNs := 0
    waveObservedNs := 0 }

/-! ## 2. Words and numbers -/

/-- `kMaximumLineBytes`. -/
def kMaximumLineBytes : ℕ := 16 * 1024

/-- One of the separators of `find_first_of(" \t\r\n")`. -/
def isSeparator (b : UInt8) : Bool := b = space || b = 0x09 || b = cr || b = lf

/-- The text up to the first separator. -/
def word (text : Bytes) : Bytes := text.takeWhile fun b => !isSeparator b

def isTokenByte (allowColon : Bool) (b : UInt8) : Bool :=
  decide (0x61 ≤ b ∧ b ≤ 0x7A) || decide (0x41 ≤ b ∧ b ≤ 0x5A) || isDigit b ||
    b = 0x5F || b = 0x2D || b = 0x2E || (allowColon && b = 0x3A)

/-- `safe_token`. -/
def safeToken (value : Bytes) (maximum : ℕ) (allowColon : Bool := false) : Bool :=
  decide (value ≠ [] ∧ value.length ≤ maximum) && value.all (isTokenByte allowColon)

def asciiLower (b : UInt8) : UInt8 := if 0x41 ≤ b ∧ b ≤ 0x5A then b + 0x20 else b

/-- `equals_ascii_case_insensitive`. -/
def equalsAsciiCaseInsensitive (left right : Bytes) : Bool :=
  decide (left.map asciiLower = right.map asciiLower)

def isBlank (b : UInt8) : Bool := b = space || b = 0x09

/-- The text without the spaces and tabs around it. -/
def trimBlanks (text : Bytes) : Bytes := (text.dropWhile isBlank).rdropWhile isBlank

/-- An `int` that is the whole text and lies between 0 and a bound. -/
def parseIntUpTo (maximum : ℤ) (text : Bytes) : Option ℤ :=
  (parseInt text).filter fun value => decide (0 ≤ value ∧ value ≤ maximum)

/-- `parse_integer`. -/
def parseInteger (text : Bytes) : Option ℤ := parseIntUpTo 100 text

/-- `parse_bounded_count`. -/
def parseBoundedCount (text : Bytes) : Option ℤ := parseIntUpTo 100000 (trimBlanks text)

/-- `parse_generation`. -/
def parseGeneration (value : Bytes) : Option ℕ :=
  (parseUInt64 value).filter fun generation => decide (generation ≠ 0)

/-- The exponent of a number: behind its `e` stand digits, perhaps with a sign. -/
def parseExponent : Bytes → Option ℤ
  | [] => some 0
  | _ :: 0x2D :: digits =>
    if digits ≠ [] ∧ digits.all isDigit then some (-(fromDigits digits : ℤ)) else none
  | _ :: 0x2B :: digits =>
    if digits ≠ [] ∧ digits.all isDigit then some (fromDigits digits) else none
  | _ :: digits =>
    if digits ≠ [] ∧ digits.all isDigit then some (fromDigits digits) else none

/-- The number that digits, a fraction and an exponent write. -/
def parseDecimal (text : Bytes) : Option ℚ := do
  let mantissa := text.takeWhile fun b => b ≠ 0x65 ∧ b ≠ 0x45
  let whole := mantissa.takeWhile isDigit
  let fraction := (mantissa.drop whole.length).tail
  let exponent ← parseExponent (text.drop mantissa.length)
  if (mantissa.drop whole.length).head? ≠ some 0x2E ∧ mantissa.drop whole.length ≠ [] ∨
      fraction.all isDigit = false ∨ whole ++ fraction = [] then none
  else some (fromDigits (whole ++ fraction) * (10 : ℚ) ^ (exponent - fraction.length))

/-- `std::from_chars` of a `double`, which has to be the whole text and finite. -/
def fromCharsDouble : Bytes → Option ℚ
  | 0x2D :: digits => ((parseDecimal digits).bind nearestDouble).map fun value => -value
  | text => (parseDecimal text).bind nearestDouble

/-- `parse_real`. -/
def parseReal (text : Bytes) : Option ℚ :=
  (fromCharsDouble text).filter fun value => decide (0 ≤ value ∧ value ≤ 100)

/-- `parse_seconds_after`. -/
def parseSecondsAfter (line marker : Bytes) : Option ℚ := do
  let (_, value) ← search marker line
  (fromCharsDouble (word value)).filter fun seconds => decide (0 ≤ seconds ∧ seconds ≤ 3600)

/-! ## 3. The lines -/

/-- The fields of a load URL, between question marks. -/
def loadMapField (session : GameLogSession) (field : Bytes) : GameLogSession :=
  match cut 0x3D field with
  | none => session
  | some (name, value) =>
    if name = ascii "Game" ∧ safeToken value 256 true = true then
      { session with gameClass := some value }
    else if name = ascii "Difficulty" then { session with difficulty := parseReal value }
    else if name = ascii "GameLength" then { session with gameLength := parseInteger value }
    else session

/-- The map of a load URL, behind the address of its server if it has one. -/
def loadMapName (map : Bytes) : Option Bytes :=
  if 0x2F ∈ map then
    let name := map.rtakeWhile (· ≠ 0x2F)
    let server := map.take (map.length - name.length - 1)
    if 0x3A ∉ server ∨ safeToken server 256 true = false then none else some name
  else some map

/-- `parse_load_map_line`. -/
def parseLoadMapLine (line : Bytes) : Option GameLogSession := do
  let (_, payload) ← search (ascii "Log: LoadMap: ") line
  if payload = [] ∨ kMaximumLineBytes < payload.length then none
  else
    let url := splitOn 0x3F payload
    let map ← loadMapName url.head!
    if safeToken map 128 = false then none
    else
      let mainMenu := equalsAsciiCaseInsensitive map (ascii "KFMainMenu")
      let session : GameLogSession :=
        { map, mainMenu, phase := if mainMenu then .mainMenu else .mapLoaded }
      some (url.tail.foldl loadMapField session)

/-- `parse_net_mode_line`. -/
def parseNetModeLine (line : Bytes) : Option Bytes := do
  let (_, value) ← search (ascii "ScriptLog: WI.NetMode:") line
  let value := trimBlanks value
  if safeToken value 32 = true ∧
      value ∈ [ascii "NM_Standalone", ascii "NM_DedicatedServer", ascii "NM_ListenServer",
        ascii "NM_Client"] then some value
  else none

/-- What stands behind a marker of schema 2, or else behind one of schema 1. -/
def bySchema (marker : String) (line : Bytes) : Option (Bool × Bytes) :=
  match search (ascii (marker ++ " schema=2 state=")) line with
  | some (_, rest) => some (true, rest)
  | none => (search (ascii (marker ++ " schema=1 state=")) line).map fun p => (false, p.2)

/-- `OptimizerSessionContextReceipt`. -/
structure OptimizerSessionContextReceipt where
  state : Bytes
  netMode : Bytes
  map : Bytes
  generation : Option ℕ

/-- `parse_optimizer_session_context_line`. -/
def parseOptimizerSessionContextLine (line : Bytes) : Option OptimizerSessionContextReceipt := do
  let (schemaV2, rest) ← bySchema "KF2OPT_SESSION_CONTEXT" line
  let (state, rest) ← search (ascii " net_mode=") rest
  let (netMode, map) ← search (ascii " map=") rest
  let (map, generation) ←
    if schemaV2 then do
      let (map, generationText) ← search (ascii " generation=") map
      let generation ← parseGeneration (word generationText)
      pure (map, some generation)
    else pure (map, none)
  let map := word map
  if (state = ascii "online_client_read_only" ∧ netMode = ascii "NM_Client" ∨
      state = ascii "online_host_read_only" ∧ netMode = ascii "NM_ListenServer") ∧
      safeToken map 128 = true then some ⟨state, netMode, map, generation⟩
  else none

/-- `AdaptiveBridgeReceipt`: the port of a bridge that is ready. -/
structure AdaptiveBridgeReceipt where
  port : Option ℕ

/-- `parse_adaptive_bridge_line`. -/
def parseAdaptiveBridgeLine (line : Bytes) : Option AdaptiveBridgeReceipt := do
  let (_, rest) ← search (ascii "KF2OPT_ADAPTIVE_BRIDGE state=") line
  let state := word rest
  if state = ascii "blocked" ∨ state = ascii "unavailable" then some ⟨none⟩
  else if state ≠ ascii "ready" then none
  else
    let value ← after (ascii " port=") (rest.drop state.length)
    let port ← fromChars (2 ^ 32) (word value)
    if port = 0 ∨ 65535 < port then none else some ⟨some port⟩

/-- `GameplayUiContextReceipt`. -/
structure GameplayUiContextReceipt where
  context : GameplayUiContext
  netMode : Option Bytes := none
  map : Option Bytes := none
  generation : Option ℕ := none

/-- The context a state names. -/
def parseContext (state : Bytes) : Option GameplayUiContext :=
  if state = ascii "gameplay" then some .gameplay
  else if state = ascii "menu" then some .menu
  else if state = ascii "trader" then some .trader
  else if state = ascii "unavailable" then some .unavailable
  else none

/-- `parse_gameplay_ui_context_line`. -/
def parseGameplayUiContextLine (line : Bytes) : Option GameplayUiContextReceipt := do
  let (schemaV2, rest) ← bySchema "KF2OPT_GAMEPLAY_CONTEXT" line
  let state := word rest
  let context ← parseContext state
  if schemaV2 = false then some { context }
  else
    -- each marker begins with a space and has no other, so the next one stands behind it
    let (_, rest) ← search (ascii " net_mode=") (rest.drop state.length)
    let (netMode, rest) ← search (ascii " map=") rest
    let (map, rest) ← search (ascii " generation=") rest
    let generation ← parseGeneration (word rest)
    if (netMode = ascii "NM_Client" ∨ netMode = ascii "NM_ListenServer") ∧
        safeToken map 128 = true then
      some { context, netMode := some netMode, map := some map, generation := some generation }
    else none

/-- `parse_zed_count_line`: the count, and whether it is of the zeds remaining. -/
def parseZedCountLine (line : Bytes) : Option (Bool × ℤ) :=
  let count (marker : String) : Option ℤ := do
    let (_, value) ← search (ascii marker) line
    parseBoundedCount value
  match count "@@@@ ZED COUNT DEBUG: MyKFGRI.AIRemaining =" with
  | some value => some (true, value)
  | none => (count "@@@@ ZED COUNT DEBUG: AIAliveCount =").map fun value => (false, value)

/-- `parse_wave_snapshot_line`: the index of the wave and its number of zeds. -/
def parseWaveSnapshotLine (line : Bytes) : Option (ℤ × ℤ) := do
  let (_, rest) ← search (ascii "KFAISpawnManager.SetupNextWave() NextWave:") line
  let (index, total) ← search (ascii "WaveTotalAI:") rest
  let waveIndex ← parseBoundedCount index
  let total ← parseBoundedCount total
  if 255 < waveIndex then none else some (waveIndex, total)

/-! ## 4. Online corpse receipts -/

/-- The line holds all of these texts. -/
def containsAll (texts : List String) (line : Bytes) : Bool :=
  texts.all fun text => contains (ascii text) line

/-- The text up to the first space. -/
def upToSpace (text : Bytes) : Bytes := text.takeWhile (· ≠ space)

/-- A receipt of a capability: the corpse pool and its maximum. -/
def parseCorpseCapability (payload : Bytes) : Option (ℤ × ℤ) := do
  let (state, rest) ← cut space payload
  let rest := space :: rest
  if state ≠ ascii "available" ∧ state ≠ ascii "populated" then none
  else
    -- ` maximum=` behind ` pool=`, and no earlier one
    let (before, rest) ← search (ascii " pool=") rest
    if contains (ascii " maximum=") before = true then none
    else
      let (pool, maximum) ← search (ascii " maximum=") rest
      let pool ← parseBoundedCount pool
      let maximum ← parseBoundedCount (upToSpace maximum)
      if maximum < pool then none else some (pool, maximum)

/-- A receipt of a capacity action: the corpse pool after it and its maximum. -/
def parseCorpseCapacity (line : Bytes) : Option (ℤ × ℤ) := do
  let (beforeAt, rest) ← search (ascii " pool_before=") line
  let (poolBefore, rest) ← search (ascii " pool_after=") rest
  let (poolAfter, maximum) ← search (ascii " maximum=") rest
  if contains (ascii " pool_after=") beforeAt = true ∨
      contains (ascii " maximum=") beforeAt = true ∨
      contains (ascii " maximum=") poolBefore = true then none
  else
    let poolBefore ← parseBoundedCount poolBefore
    let poolAfter ← parseBoundedCount poolAfter
    let maximum ← parseBoundedCount (upToSpace maximum)
    if poolBefore ≠ poolAfter + 1 ∨ poolAfter < maximum then none else some (poolAfter, maximum)

/-- An action that was verified: what it sets, and whether that was not known before. -/
def verifyAction (verified : Bool) (session : GameLogSession) (observedAtNs : ℕ) :
    GameLogSession × Bool :=
  ({ session with onlineCorpseActionObservedNs := observedAtNs }, !verified)

/-- `apply_online_corpse_line`, and whether it reports a change. -/
def applyOnlineCorpseLine (session : GameLogSession) (line : Bytes) (observedAtNs : ℕ) :
    Option (GameLogSession × Bool) :=
  if contains (ascii " local_only=true readback=verified") line = false then none
  else
    match search (ascii "KF2OPT_ONLINE_CORPSE state=") line with
    | some (_, payload) =>
      (parseCorpseCapability payload).map fun (pool, maximum) =>
        ({ session with
            onlineCorpsePool := some pool
            onlineCorpseMaximum := some maximum
            onlineCorpseCapabilityObservedNs := observedAtNs },
          decide (session.onlineCorpsePool ≠ some pool ∨
            session.onlineCorpseMaximum ≠ some maximum))
    | none =>
      if containsAll ["KF2OPT_ONLINE_CORPSE_ACTION state=sleep ", " awake=false "] line = true then
        some (verifyAction session.onlineCorpseSleepVerified
          { session with onlineCorpseSleepVerified := true } observedAtNs)
      else if containsAll ["KF2OPT_ONLINE_CORPSE_ACTION state=freeze ", " physics=PHYS_None ",
          " collision=false ", " rigid_body_block=false ", " tick_disabled=true "] line = true then
        some (verifyAction session.onlineCorpseFreezeVerified
          { session with onlineCorpseFreezeVerified := true } observedAtNs)
      else if containsAll ["KF2OPT_ONLINE_CORPSE_ACTION state=restored ",
          " physics=PHYS_RigidBody ", " collision=original ", " tick=original "] line = true then
        some (verifyAction session.onlineCorpseRestoreVerified
          { session with onlineCorpseRestoreVerified := true } observedAtNs)
      else if containsAll ["KF2OPT_ONLINE_CORPSE_ACTION state=lod ", " target_lod=",
          " fixed_minimum=true "] line = true then
        some (verifyAction session.onlineCorpseLodVerified
          { session with onlineCorpseLodVerified := true } observedAtNs)
      else if containsAll ["KF2OPT_ONLINE_CORPSE_ACTION state=skeleton ", " skip_asleep=true ",
          " no_skeleton_update=true ", " fixed_minimum=true "] line = true then
        some (verifyAction session.onlineCorpseSkeletonVerified
          { session with onlineCorpseSkeletonVerified := true } observedAtNs)
      else if contains (ascii "KF2OPT_ONLINE_CORPSE_ACTION state=capacity ") line = true then
        (parseCorpseCapacity line).map fun (pool, maximum) =>
          ({ session with
              onlineCorpseCapacityVerified := true
              onlineCorpsePool := some pool
              onlineCorpseMaximum := some maximum
              onlineCorpseActionObservedNs := observedAtNs },
            decide (session.onlineCorpseCapacityVerified = false ∨
              session.onlineCorpsePool ≠ some pool ∨
              session.onlineCorpseMaximum ≠ some maximum))
      else none

/-- The text that every online corpse receipt holds. -/
def onlineCorpseMarker : Bytes := ascii "KF2OPT_ONLINE_CORPSE"

end Kf2Optimizer.Game
