/-
# The log parser: chunks in, sessions out

`game_log_session.cpp`.  `feed` puts a chunk behind the unfinished line that the chunks before it
left, interprets the lines that are complete now, and keeps the rest.  A line is interpreted by the
first of a list of branches that knows it (`branches`), and each branch says whether it changed
the session.

Two bounds drop bytes.  A buffer over four times the line bound loses what was kept, and a rest
over the line bound is not kept.  Both forget that the line they cut has begun, so what comes
later of it is read as a line of its own.

* `feedAll_current`: a run of chunks gives the session of the lines it reads, whether measurements
  are forgotten behind every chunk or not;
* `linesRead_eq`: as long as nothing is dropped, these are the stream's own lines;
* `chunking_irrelevant`: so the cuts do not matter;
* `chunking_matters`: where a bound drops bytes, they do.
-/
import Kf2Optimizer.Game.GameLogTelemetry

namespace Kf2Optimizer.Game

open Text

/-! ## 1. The branches of a line -/

/-- A branch: what a line of its kind makes of the session, and whether it reports a change. -/
abbrev Branch := ℕ → GameLogSession → Bytes → Option (GameLogSession × Bool)

def standalone : Bytes := ascii "NM_Standalone"

/-- The line names the net mode. -/
def netModeBranch : Branch := fun _ session line =>
  (parseNetModeLine line).map fun mode =>
    if session.netMode = some mode then (session, false)
    else
      let session := { session with
        netMode := some mode
        optimizerOnlineReadOnly := false
        optimizerSessionContextObservedNs := 0
        optimizerSessionGeneration := none }
      (if mode = standalone then session else clearGameplaySnapshot session, true)

/-- The map of a receipt is another one: nothing seen of the corpses holds of it. -/
def enterMap (session : GameLogSession) (map : Bytes) : GameLogSession :=
  { session with
    map
    phase := .mapLoaded
    mainMenu := false
    loadingMovieActive := false
    onlineCorpsePool := none
    onlineCorpseMaximum := none
    onlineCorpseSleepVerified := false
    onlineCorpseCapacityVerified := false
    onlineCorpseFreezeVerified := false
    onlineCorpseRestoreVerified := false
    onlineCorpseLodVerified := false
    onlineCorpseSkeletonVerified := false
    onlineCorpseCapabilityObservedNs := 0
    onlineCorpseActionObservedNs := 0 }

/-- The session behind an accepted receipt, of another map or generation perhaps. -/
def acceptContext (observedAtNs : ℕ) (receipt : OptimizerSessionContextReceipt)
    (mapChanged generationChanged : Bool) (session : GameLogSession) : GameLogSession × Bool :=
  let cleared :=
    if mapChanged || generationChanged then clearGameplaySnapshot session else session
  let entered := if mapChanged then enterMap cleared receipt.map else cleared
  if mapChanged || !entered.optimizerOnlineReadOnly ||
      decide (entered.netMode ≠ some receipt.netMode) || generationChanged ||
      decide (entered.optimizerSessionContextObservedNs ≠ observedAtNs) then
    ({ entered with
      netMode := some receipt.netMode
      optimizerOnlineReadOnly := true
      optimizerSessionContextObservedNs := observedAtNs
      optimizerSessionGeneration := receipt.generation }, true)
  else (entered, false)

/-- The line is a receipt of the online session. -/
def sessionContextBranch : Branch := fun observedAtNs session line => do
  let receipt ← parseOptimizerSessionContextLine line
  if session.netMode = none ∨ session.netMode = some standalone ∨
      session.netMode = some receipt.netMode then
    some (acceptContext observedAtNs receipt (decide (session.map ≠ receipt.map))
      (decide (session.optimizerSessionGeneration ≠ receipt.generation)) session)
  else none

/-- The line says what became of the control listener. -/
def adaptiveBridgeBranch : Branch := fun _ session line => do
  let bridge ← parseAdaptiveBridgeLine line
  if session.mainMenu = false ∧ session.phase ≠ .matchEnded then
    if session.telemetryControlPort = bridge.port then some (session, false)
    else some ({ session with telemetryControlPort := bridge.port }, true)
  else none

/-- The line is a receipt about corpses of an online session. -/
def onlineCorpseBranch : Branch := fun observedAtNs session line =>
  if session.mainMenu = false ∧ session.optimizerOnlineReadOnly = true then
    applyOnlineCorpseLine session line observedAtNs
  else none

/-- The receipt is of the session itself, which an online one has to say. -/
def receiptMatchesSession (session : GameLogSession) (receipt : GameplayUiContextReceipt) : Bool :=
  match session.optimizerOnlineReadOnly, receipt.netMode, receipt.map, receipt.generation,
      session.netMode with
  | false, _, _, _, _ => true
  | true, some netMode, some map, some generation, some current =>
    decide (netMode = current) && equalsAsciiCaseInsensitive map session.map &&
      decide (session.optimizerSessionGeneration = some generation)
  | _, _, _, _, _ => false

/-- The line names what the player is doing. -/
def uiContextBranch : Branch := fun _ session line => do
  let receipt ← parseGameplayUiContextLine line
  if session.mainMenu = false ∧ session.phase ≠ .matchEnded then
    if receiptMatchesSession session receipt = true ∧
        (session.gameplayUiContext ≠ some receipt.context ∨
          session.gameplayUiContextMap ≠ receipt.map ∨
          session.gameplayUiContextGeneration ≠ receipt.generation) then
      some ({ session with
        gameplayUiContext := some receipt.context
        gameplayUiContextRevision := u64 (session.gameplayUiContextRevision + 1)
        gameplayUiContextMap := receipt.map
        gameplayUiContextGeneration := receipt.generation }, true)
    else some (session, false)
  else none

/-- The loading movie starts. -/
def movieStartBranch : Branch := fun _ session line =>
  if session.mainMenu = false ∧ contains (ascii "Log: --- LOADING MOVIE START ---") line = true then
    if session.loadingMovieActive then some (session, false)
    else some ({ session with loadingMovieActive := true }, true)
  else none

/-- The level is loaded. -/
def levelLoadedBranch : Branch := fun observedAtNs session line => do
  let seconds ← parseSecondsAfter line (ascii "Log: ########### Finished loading level: ")
  if session.mainMenu then none
  else if session.levelLoadSeconds = some seconds then some (session, false)
  else some ({ session with
    levelLoadSeconds := some seconds
    levelLoadedObservedNs := observedAtNs }, true)

/-- The resources are streamed. -/
def streamedBranch : Branch := fun _ session line => do
  let seconds ←
    parseSecondsAfter line (ascii "Log: GameThreadStopMovie - StreamAllResources time: ")
  if session.mainMenu then none
  else if session.streamAllResourcesSeconds = some seconds then some (session, false)
  else some ({ session with streamAllResourcesSeconds := some seconds }, true)

/-- The loading movie is over. -/
def movieFinishedBranch : Branch := fun observedAtNs session line => do
  let seconds ← parseSecondsAfter line (ascii "Log: --- LOADING MOVIE TIME: ")
  if session.mainMenu then none
  else if session.loadingMovieActive = false ∧ session.loadingMovieSeconds = some seconds then
    some (session, false)
  else some ({ session with
    loadingMovieActive := false
    loadingMovieSeconds := some seconds
    loadingMovieFinishedObservedNs := observedAtNs }, true)

/-- A time of observation, where 0 is none. -/
def observedOr (observedAtNs previous : ℕ) : ℕ :=
  if observedAtNs ≠ 0 then observedAtNs else previous

/-- The line counts the zeds that remain or are alive. -/
def zedCountBranch : Branch := fun observedAtNs session line => do
  let (remaining, count) ← parseZedCountLine line
  if session.mainMenu = true ∨ session.netMode ≠ some standalone then none
  else
    let target := if remaining then session.zedsRemaining else session.zedsAlive
    let observed := if remaining then session.zedsRemainingObservedNs
      else session.zedsAliveObservedNs
    let changed := decide (target ≠ some count ∨ observedAtNs ≠ 0 ∧ observed ≠ observedAtNs)
    if remaining then
      some ({ session with
        zedsRemaining := some count
        zedsRemainingObservedNs := observedOr observedAtNs observed }, changed)
    else
      some ({ session with
        zedsAlive := some count
        zedsAliveObservedNs := observedOr observedAtNs observed }, changed)

/-- The line announces a wave of the survival game. -/
def waveBranch : Branch := fun observedAtNs session line => do
  let (index, total) ← parseWaveSnapshotLine line
  if session.mainMenu = true ∨ session.netMode ≠ some standalone then none
  else
    let gameClass ← session.gameClass
    if equalsAsciiCaseInsensitive gameClass (ascii "KFGameContent.KFGameInfo_Survival") = true then
      let changed := decide (session.waveNumber ≠ some (index + 1) ∨
        session.waveTotalAi ≠ some total ∨
        observedAtNs ≠ 0 ∧ session.waveObservedNs ≠ observedAtNs)
      some ({ session with
        waveNumber := some (index + 1)
        waveTotalAi := some total
        waveObservedNs := observedOr observedAtNs session.waveObservedNs }, changed)
    else none

/-- The line is a sample of measurements. -/
def telemetryBranch : Branch := fun observedAtNs session line =>
  if session.mainMenu = false ∧ session.netMode = some standalone then
    applyOfflineTelemetryLine session line observedAtNs
  else none

/-- The match is over. -/
def matchEndedBranch : Branch := fun _ session line =>
  if session.mainMenu = false ∧ session.phase ≠ .matchEnded ∧
      contains (ascii "ScriptLog: KFGameInfo_") line = true ∧
      contains (ascii " - MatchEnded.BeginState") line = true then
    some (clearGameplaySnapshot { session with phase := .matchEnded }, true)
  else none

/-- The branches, in the order in which a line is tried on them. -/
def branches : List Branch :=
  [netModeBranch, sessionContextBranch, adaptiveBridgeBranch, onlineCorpseBranch, uiContextBranch,
    movieStartBranch, levelLoadedBranch, streamedBranch, movieFinishedBranch, zedCountBranch,
    waveBranch, telemetryBranch, matchEndedBranch]

/-- The first branch that knows the line. -/
def firstBranch : List Branch → Branch
  | [], _, _, _ => none
  | branch :: rest, observedAtNs, session, line =>
    match branch observedAtNs session line with
    | some result => some result
    | none => firstBranch rest observedAtNs session line

/-- A loaded map begins a session. -/
def loadMap (observedAtNs : ℕ) (parsed : GameLogSession) : GameLogSession :=
  if parsed.mainMenu = false ∧ observedAtNs ≠ 0 then
    { parsed with loadMapObservedNs := observedAtNs }
  else parsed

/-- One line: the session behind it, and whether a change is reported. -/
def interpretLine (observedAtNs : ℕ) (current : Option GameLogSession) (line : Bytes) :
    Option GameLogSession × Bool :=
  match parseLoadMapLine line with
  | some parsed =>
    (some (loadMap observedAtNs parsed), decide (current ≠ some (loadMap observedAtNs parsed)))
  | none =>
    match current with
    | none => (none, false)
    | some session =>
      match firstBranch branches observedAtNs session line with
      | some (session', changed) => (some session', changed)
      | none => (some session, false)

/-- A line behind others: a change of one of them is a change. -/
def interpretNext (observedAtNs : ℕ) (before : Option GameLogSession × Bool) (line : Bytes) :
    Option GameLogSession × Bool :=
  ((interpretLine observedAtNs before.1 line).1,
    before.2 || (interpretLine observedAtNs before.1 line).2)

/-! ## 2. The lines of a buffer -/

/-- The complete lines of a buffer, as they stand before their line feeds. -/
def completeLines (buffer : Bytes) : List Bytes := (splitOn lf buffer).dropLast

/-- What stands behind the last line feed. -/
def unfinished (buffer : Bytes) : Bytes := (splitOn lf buffer).getLast?.getD []

/-- A line short enough to be interpreted. -/
def fits (line : Bytes) : Bool := decide (line.length ≤ kMaximumLineBytes)

/-- The lines of a buffer that are interpreted. -/
def ownLines (buffer : Bytes) : List Bytes := ((completeLines buffer).map stripCr).filter fits

/-- The bytes that are in the buffer when a chunk comes. -/
def keptBefore (pending bytes : Bytes) : Bytes :=
  if 4 * kMaximumLineBytes < pending.length + bytes.length then [] else pending

/-- The bytes that a chunk leaves for the next. -/
def keptAfter (buffer : Bytes) : Bytes :=
  if kMaximumLineBytes < (unfinished buffer).length then [] else unfinished buffer

/-! ## 3. The parser -/

/-- `GameLogParserStats`, as far as the parser counts it. -/
structure GameLogParserStats where
  bytesReceived : ℕ := 0
  linesProcessed : ℕ := 0
  oversizedInputResets : ℕ := 0
  oversizedLineDrops : ℕ := 0
  sessionSnapshotCopies : ℕ := 0

/-- `add_saturated`. -/
def addSaturated (value amount : ℕ) : ℕ := min (value + amount) (2 ^ 64 - 1)

/-- `GameLogSessionParser`. -/
structure GameLogSessionParser where
  pending : Bytes := []
  current : Option GameLogSession := none
  stats : GameLogParserStats := {}

/-- The measurements that catching up forgets: reading history does not make them fresh. -/
def forgetMeasurements (session : GameLogSession) : GameLogSession :=
  clearOfflineTelemetrySnapshot { session with
    zedsRemaining := none
    zedsRemainingObservedNs := 0
    zedsAlive := none
    zedsAliveObservedNs := 0
    waveNumber := none
    waveTotalAi := none
    waveObservedNs := 0
    loadMapObservedNs := 0
    levelLoadedObservedNs := 0
    loadingMovieFinishedObservedNs := 0 }

/-- There is a measurement to forget. -/
def hasMeasurements (session : GameLogSession) : Bool :=
  session.zedsRemaining.isSome || session.zedsAlive.isSome || session.waveNumber.isSome ||
    session.waveTotalAi.isSome || (session.telemetry .sample).isSome ||
    session.loadMapObservedNs != 0 || session.levelLoadedObservedNs != 0 ||
    session.loadingMovieFinishedObservedNs != 0

/-- The session behind the lines of a chunk, and whether a change is reported. -/
def settle (measurementsCurrent : Bool) (read : Option GameLogSession × Bool) :
    Option GameLogSession × Bool :=
  match read with
  | (none, _) => (none, false)
  | (some session, changed) =>
    if measurementsCurrent then (some session, changed)
    else (some (forgetMeasurements session), changed || hasMeasurements session)

/-- `GameLogSessionParser::feed`: the parser behind a chunk, and the session where it changed. -/
def GameLogSessionParser.feed (parser : GameLogSessionParser) (bytes : Bytes) (observedAtNs : ℕ)
    (measurementsCurrent : Bool) : Option GameLogSession × GameLogSessionParser :=
  if bytes = [] then (none, parser)
  else if 4 * kMaximumLineBytes < bytes.length then
    (none, { parser with
      pending := []
      stats := { parser.stats with
        bytesReceived := addSaturated parser.stats.bytesReceived bytes.length
        oversizedInputResets := addSaturated parser.stats.oversizedInputResets 1
        oversizedLineDrops := addSaturated parser.stats.oversizedLineDrops 1 } })
  else
    let buffer := keptBefore parser.pending bytes ++ bytes
    let lines := completeLines buffer
    let settled := settle measurementsCurrent
      ((ownLines buffer).foldl (interpretNext observedAtNs) (parser.current, false))
    let overfull := 4 * kMaximumLineBytes < parser.pending.length + bytes.length
    let drops := (lines.map stripCr).countP (fun line => !fits line) +
      if kMaximumLineBytes < (unfinished buffer).length then 1 else 0
    let snapshot := if settled.2 then settled.1 else none
    (snapshot,
      { pending := keptAfter buffer
        current := settled.1
        stats :=
          { bytesReceived := addSaturated parser.stats.bytesReceived bytes.length
            linesProcessed := addSaturated parser.stats.linesProcessed lines.length
            oversizedInputResets :=
              addSaturated parser.stats.oversizedInputResets (if overfull then 1 else 0)
            oversizedLineDrops := addSaturated parser.stats.oversizedLineDrops drops
            sessionSnapshotCopies := addSaturated parser.stats.sessionSnapshotCopies
              (if snapshot.isSome then 1 else 0) } })

/-- `kGameLogObservationFreshnessNs`. -/
def kGameLogObservationFreshnessNs : ℕ := 15000000000

/-- An observation is too old: `now_ns - observed_at_ns > maximum_age_ns`. -/
def isExpired (nowNs maximumAgeNs observedAtNs : ℕ) : Bool :=
  decide (observedAtNs ≠ 0 ∧ observedAtNs ≤ nowNs ∧ maximumAgeNs < nowNs - observedAtNs)

/-- `expire_observations` of a session: what is left, and whether anything expired. -/
def expireSession (session : GameLogSession) (nowNs maximumAgeNs : ℕ) : GameLogSession × Bool :=
  let remaining := session.zedsRemaining.isSome &&
    isExpired nowNs maximumAgeNs session.zedsRemainingObservedNs
  let alive := session.zedsAlive.isSome &&
    isExpired nowNs maximumAgeNs session.zedsAliveObservedNs
  let wave := (session.waveNumber.isSome || session.waveTotalAi.isSome) &&
    isExpired nowNs maximumAgeNs session.waveObservedNs
  let telemetry := isExpired nowNs maximumAgeNs session.telemetryObservedNs
  let session := if remaining then
    { session with zedsRemaining := none, zedsRemainingObservedNs := 0 } else session
  let session := if alive then
    { session with zedsAlive := none, zedsAliveObservedNs := 0 } else session
  let session := if wave then
    { session with waveNumber := none, waveTotalAi := none, waveObservedNs := 0 } else session
  let session := if telemetry then clearOfflineTelemetrySnapshot session else session
  (session, remaining || alive || wave || telemetry)

/-- `GameLogSessionParser::expire_observations`. -/
def GameLogSessionParser.expireObservations (parser : GameLogSessionParser)
    (nowNs maximumAgeNs : ℕ) : Option GameLogSession × GameLogSessionParser :=
  match parser.current with
  | none => (none, parser)
  | some session =>
    if nowNs = 0 then (none, parser)
    else
      let expired := expireSession session nowNs maximumAgeNs
      (if expired.2 then some expired.1 else none, { parser with current := some expired.1 })

/-! ## 4. Forgetting does not change how lines are read -/

/-- What is left of a result when its measurements are forgotten. -/
def remains (result : GameLogSession × Bool) : GameLogSession := forgetMeasurements result.1

/-- A branch does not look at the measurements that catching up forgets. -/
def Blind (branch : Branch) : Prop :=
  ∀ observedAtNs session line,
    (branch observedAtNs (forgetMeasurements session) line).map remains =
      (branch observedAtNs session line).map remains

theorem remains_ite {c : Prop} {d d' : Decidable c} {a b a' b' : GameLogSession × Bool}
    (ha : remains a = remains a') (hb : remains b = remains b') :
    remains (@ite _ c d a b) = remains (@ite _ c d' a' b') := by
  by_cases hc : c
  · rw [if_pos hc, if_pos hc, ha]
  · rw [if_neg hc, if_neg hc, hb]

theorem map_remains_ite {c : Prop} {d d' : Decidable c}
    {a b a' b' : Option (GameLogSession × Bool)} (ha : a.map remains = a'.map remains)
    (hb : b.map remains = b'.map remains) :
    (@ite _ c d a b).map remains = (@ite _ c d' a' b').map remains := by
  by_cases hc : c
  · rw [if_pos hc, if_pos hc, ha]
  · rw [if_neg hc, if_neg hc, hb]

theorem map_remains_bind {α : Type} (x : Option α) {f g : α → Option (GameLogSession × Bool)}
    (h : ∀ a, (f a).map remains = (g a).map remains) :
    (x >>= f).map remains = (x >>= g).map remains := by
  cases x with
  | none => rfl
  | some a => exact h a

theorem map_remains_map {α : Type} (x : Option α) {f g : α → GameLogSession × Bool}
    (h : ∀ a, remains (f a) = remains (g a)) : (x.map f).map remains = (x.map g).map remains := by
  cases x with
  | none => rfl
  | some a => exact congrArg some (h a)

theorem blind_netMode : Blind netModeBranch := by
  intro observedAtNs session line
  refine map_remains_map _ fun mode => remains_ite rfl ?_
  by_cases hmode : mode = standalone
  · simp only [if_pos hmode]
    rfl
  · simp only [if_neg hmode]
    rfl

theorem remains_acceptContext (observedAtNs : ℕ) (receipt : OptimizerSessionContextReceipt)
    (mapChanged generationChanged : Bool) (session : GameLogSession) :
    remains (acceptContext observedAtNs receipt mapChanged generationChanged
        (forgetMeasurements session)) =
      remains (acceptContext observedAtNs receipt mapChanged generationChanged session) := by
  cases mapChanged <;> cases generationChanged <;> exact remains_ite rfl rfl

theorem blind_sessionContext : Blind sessionContextBranch := by
  intro observedAtNs session line
  refine map_remains_bind _ fun receipt => map_remains_ite ?_ rfl
  exact congrArg some (remains_acceptContext ..)

theorem blind_adaptiveBridge : Blind adaptiveBridgeBranch := by
  intro observedAtNs session line
  refine map_remains_bind _ fun bridge => map_remains_ite ?_ rfl
  exact map_remains_ite rfl rfl

theorem blind_onlineCorpse : Blind onlineCorpseBranch := by
  intro observedAtNs session line
  refine map_remains_ite (map_remains_ite rfl ?_) rfl
  cases search (ascii "KF2OPT_ONLINE_CORPSE state=") line with
  | some found => exact map_remains_map _ fun capability => rfl
  | none =>
    -- sleep, freeze, restored, lod, skeleton, capacity
    refine map_remains_ite rfl (map_remains_ite rfl (map_remains_ite rfl ?_))
    refine map_remains_ite rfl (map_remains_ite rfl (map_remains_ite ?_ rfl))
    exact map_remains_map _ fun capacity => rfl

theorem blind_uiContext : Blind uiContextBranch := by
  intro observedAtNs session line
  refine map_remains_bind _ fun receipt => map_remains_ite ?_ rfl
  exact map_remains_ite rfl rfl

theorem blind_movieStart : Blind movieStartBranch := by
  intro observedAtNs session line
  exact map_remains_ite (map_remains_ite rfl rfl) rfl

theorem blind_levelLoaded : Blind levelLoadedBranch := by
  intro observedAtNs session line
  refine map_remains_bind _ fun seconds => map_remains_ite rfl ?_
  exact map_remains_ite rfl rfl

theorem blind_streamed : Blind streamedBranch := by
  intro observedAtNs session line
  refine map_remains_bind _ fun seconds => map_remains_ite rfl ?_
  exact map_remains_ite rfl rfl

theorem blind_movieFinished : Blind movieFinishedBranch := by
  intro observedAtNs session line
  refine map_remains_bind _ fun seconds => map_remains_ite rfl ?_
  exact map_remains_ite rfl rfl

theorem blind_zedCount : Blind zedCountBranch := by
  intro observedAtNs session line
  refine map_remains_bind _ fun found => map_remains_ite rfl ?_
  exact map_remains_ite rfl rfl

theorem blind_wave : Blind waveBranch := by
  intro observedAtNs session line
  refine map_remains_bind _ fun found => map_remains_ite rfl ?_
  refine map_remains_bind session.gameClass fun gameClass => ?_
  exact map_remains_ite rfl rfl

theorem blind_telemetry : Blind telemetryBranch := by
  intro observedAtNs session line
  refine map_remains_ite ?_ rfl
  exact map_remains_bind _ fun telemetry => rfl

theorem blind_matchEnded : Blind matchEndedBranch := by
  intro observedAtNs session line
  exact map_remains_ite rfl rfl

/-- **The branches are blind together.** -/
theorem blind_firstBranch {bs : List Branch} (h : ∀ branch ∈ bs, Blind branch) :
    Blind (firstBranch bs) := by
  intro observedAtNs session line
  induction bs with
  | nil => rfl
  | cons branch rest ih =>
    obtain ⟨hfirst, hrest⟩ := List.forall_mem_cons.mp h
    have hbranch := hfirst observedAtNs session line
    cases hforget : branch observedAtNs (forgetMeasurements session) line <;>
      cases hkept : branch observedAtNs session line <;>
      simp only [hforget, hkept, Option.map_some, Option.map_none, reduceCtorEq] at hbranch
    · simp only [firstBranch, hforget, hkept]
      exact ih hrest
    · simpa only [firstBranch, hforget, hkept, Option.map_some] using hbranch

theorem blind_branches : Blind (firstBranch branches) := by
  refine blind_firstBranch ?_
  simp only [branches, List.forall_mem_cons, List.not_mem_nil, false_implies, implies_true,
    and_true]
  exact ⟨blind_netMode, blind_sessionContext, blind_adaptiveBridge, blind_onlineCorpse,
    blind_uiContext, blind_movieStart, blind_levelLoaded, blind_streamed, blind_movieFinished,
    blind_zedCount, blind_wave, blind_telemetry, blind_matchEnded⟩

theorem interpretLine_forget (observedAtNs : ℕ) (current : Option GameLogSession) (line : Bytes) :
    (interpretLine observedAtNs (current.map forgetMeasurements) line).1.map forgetMeasurements =
      (interpretLine observedAtNs current line).1.map forgetMeasurements := by
  unfold interpretLine
  cases parseLoadMapLine line with
  | some parsed => rfl
  | none =>
    cases current with
    | none => rfl
    | some session =>
      have hblind := blind_branches observedAtNs session line
      simp only [Option.map_some]
      cases hforget : firstBranch branches observedAtNs (forgetMeasurements session) line <;>
        cases hkept : firstBranch branches observedAtNs session line <;>
        simp only [hforget, hkept, Option.map_some, Option.map_none, reduceCtorEq] at hblind
      · rfl
      · exact hblind

/-- The session behind lines. -/
def sessionAfter (observedAtNs : ℕ) (lines : List Bytes) (current : Option GameLogSession) :
    Option GameLogSession :=
  lines.foldl (fun current line => (interpretLine observedAtNs current line).1) current

theorem sessionAfter_append (observedAtNs : ℕ) (lines lines' : List Bytes)
    (current : Option GameLogSession) :
    sessionAfter observedAtNs (lines ++ lines') current =
      sessionAfter observedAtNs lines' (sessionAfter observedAtNs lines current) :=
  List.foldl_append

theorem foldl_interpretNext_fst (observedAtNs : ℕ) (lines : List Bytes)
    (before : Option GameLogSession × Bool) :
    (lines.foldl (interpretNext observedAtNs) before).1 =
      sessionAfter observedAtNs lines before.1 := by
  induction lines generalizing before with
  | nil => rfl
  | cons line lines ih => exact ih _

/-- **Measurements forgotten before the lines or behind them**: it comes to the same. -/
theorem sessionAfter_forget (observedAtNs : ℕ) (lines : List Bytes)
    (current : Option GameLogSession) :
    (sessionAfter observedAtNs lines (current.map forgetMeasurements)).map forgetMeasurements =
      (sessionAfter observedAtNs lines current).map forgetMeasurements := by
  induction lines generalizing current with
  | nil => cases current <;> rfl
  | cons line lines ih =>
    have hline := interpretLine_forget observedAtNs current line
    calc (sessionAfter observedAtNs (line :: lines) (current.map forgetMeasurements)).map
          forgetMeasurements
        = (sessionAfter observedAtNs lines ((interpretLine observedAtNs
            (current.map forgetMeasurements) line).1.map forgetMeasurements)).map
              forgetMeasurements := (ih _).symm
      _ = (sessionAfter observedAtNs lines ((interpretLine observedAtNs current line).1.map
            forgetMeasurements)).map forgetMeasurements := by rw [hline]
      _ = (sessionAfter observedAtNs (line :: lines) current).map forgetMeasurements := ih _

/-! ## 5. Chunks -/

/-- The chunks of a stream, fed one after the other. -/
def GameLogSessionParser.feedAll (parser : GameLogSessionParser) (chunks : List Bytes)
    (observedAtNs : ℕ) (measurementsCurrent : Bool) : GameLogSessionParser :=
  chunks.foldl (fun parser chunk => (parser.feed chunk observedAtNs measurementsCurrent).2) parser

/-- A stream cut into chunks that the parser takes. -/
structure Cutting (stream : Bytes) (chunks : List Bytes) : Prop where
  flatten : chunks.flatten = stream
  nonempty : ∀ chunk ∈ chunks, chunk ≠ []
  bounded : ∀ chunk ∈ chunks, chunk.length ≤ 4 * kMaximumLineBytes

/-- The lines that the parser interprets when the chunks come, given the bytes that it has. -/
def linesRead : Bytes → List Bytes → List Bytes
  | _, [] => []
  | pending, chunk :: chunks =>
    ownLines (keptBefore pending chunk ++ chunk) ++
      linesRead (keptAfter (keptBefore pending chunk ++ chunk)) chunks

/-- The measurements that are left when they are fresh or not. -/
def freshly (measurementsCurrent : Bool) (current : Option GameLogSession) :
    Option GameLogSession :=
  if measurementsCurrent then current else current.map forgetMeasurements

theorem freshly_sessionAfter (measurementsCurrent : Bool) (observedAtNs : ℕ) (lines : List Bytes)
    (current : Option GameLogSession) :
    freshly measurementsCurrent (sessionAfter observedAtNs lines
        (freshly measurementsCurrent current)) =
      freshly measurementsCurrent (sessionAfter observedAtNs lines current) := by
  cases measurementsCurrent with
  | true => rfl
  | false => exact sessionAfter_forget observedAtNs lines current

theorem settle_fst (measurementsCurrent : Bool) (read : Option GameLogSession × Bool) :
    (settle measurementsCurrent read).1 = freshly measurementsCurrent read.1 := by
  obtain ⟨_ | session, changed⟩ := read <;> cases measurementsCurrent <;> rfl

/-- **One chunk**: the parser reads the lines it completes and keeps the rest. -/
theorem feed_eq (parser : GameLogSessionParser) {bytes : Bytes} (hne : bytes ≠ [])
    (hlen : bytes.length ≤ 4 * kMaximumLineBytes) (observedAtNs : ℕ)
    (measurementsCurrent : Bool) :
    (parser.feed bytes observedAtNs measurementsCurrent).2.current =
        freshly measurementsCurrent (sessionAfter observedAtNs
          (ownLines (keptBefore parser.pending bytes ++ bytes)) parser.current) ∧
      (parser.feed bytes observedAtNs measurementsCurrent).2.pending =
        keptAfter (keptBefore parser.pending bytes ++ bytes) := by
  unfold GameLogSessionParser.feed
  rw [if_neg hne, if_neg (by omega)]
  constructor
  · simp only [settle_fst, foldl_interpretNext_fst]
  · rfl

/-- **A run of chunks** gives the session of the lines it reads. -/
theorem feedAll_current {stream : Bytes} {chunks : List Bytes} (hcut : Cutting stream chunks)
    (parser : GameLogSessionParser) (observedAtNs : ℕ) (measurementsCurrent : Bool) :
    freshly measurementsCurrent
        (parser.feedAll chunks observedAtNs measurementsCurrent).current =
      freshly measurementsCurrent
        (sessionAfter observedAtNs (linesRead parser.pending chunks) parser.current) := by
  obtain ⟨-, hne, hlen⟩ := hcut
  induction chunks generalizing parser with
  | nil => rfl
  | cons chunk chunks ih =>
    obtain ⟨hfirst, hne⟩ := List.forall_mem_cons.mp hne
    obtain ⟨hfirstLen, hlen⟩ := List.forall_mem_cons.mp hlen
    obtain ⟨hcurrent, hpending⟩ :=
      feed_eq parser hfirst hfirstLen observedAtNs measurementsCurrent
    have hrest := ih (parser.feed chunk observedAtNs measurementsCurrent).2 hne hlen
    rw [hcurrent, hpending, freshly_sessionAfter, ← sessionAfter_append] at hrest
    exact hrest

theorem freshly_freshly (measurementsCurrent : Bool) (current : Option GameLogSession) :
    freshly measurementsCurrent (freshly measurementsCurrent current) =
      freshly measurementsCurrent current := by
  cases measurementsCurrent <;> cases current <;> rfl

/-- The last chunk has forgotten already what is forgotten. -/
theorem freshly_feedAll {stream : Bytes} {chunks : List Bytes} (hcut : Cutting stream chunks)
    (hne : chunks ≠ []) (parser : GameLogSessionParser) (observedAtNs : ℕ)
    (measurementsCurrent : Bool) :
    freshly measurementsCurrent
        (parser.feedAll chunks observedAtNs measurementsCurrent).current =
      (parser.feedAll chunks observedAtNs measurementsCurrent).current := by
  obtain ⟨first, last, rfl⟩ := (List.eq_nil_or_concat' chunks).resolve_left hne
  have hmem : last ∈ first ++ [last] := List.mem_append_right _ List.mem_cons_self
  have hlast := (feed_eq (parser.feedAll first observedAtNs measurementsCurrent)
    (hcut.nonempty last hmem) (hcut.bounded last hmem) observedAtNs measurementsCurrent).1
  have hrun : parser.feedAll (first ++ [last]) observedAtNs measurementsCurrent =
      ((parser.feedAll first observedAtNs measurementsCurrent).feed last observedAtNs
        measurementsCurrent).2 := by
    simp [GameLogSessionParser.feedAll]
  rw [hrun, hlast, freshly_freshly]

/-! ## 6. Nothing dropped -/

/-- At every cut, the line that it falls in is short enough to be kept, and to be kept with the
chunk that follows. -/
def NothingDropped (chunks : List Bytes) : Prop :=
  ∀ i, (h : i < chunks.length) →
    (unfinished (chunks.take i).flatten).length ≤ kMaximumLineBytes ∧
    (unfinished (chunks.take i).flatten).length + chunks[i].length ≤ 4 * kMaximumLineBytes

instance (chunks : List Bytes) : Decidable (NothingDropped chunks) :=
  inferInstanceAs (Decidable (∀ i, (h : i < chunks.length) → _))

theorem NothingDropped.left {chunks : List Bytes} {chunk : Bytes}
    (h : NothingDropped (chunks ++ [chunk])) : NothingDropped chunks := by
  intro i hi
  have hboth := h i (by rw [List.length_append]; omega)
  rwa [List.take_append_of_le_length (by omega), List.getElem_append_left hi] at hboth

theorem NothingDropped.last {chunks : List Bytes} {chunk : Bytes}
    (h : NothingDropped (chunks ++ [chunk])) :
    (unfinished chunks.flatten).length ≤ kMaximumLineBytes ∧
      (unfinished chunks.flatten).length + chunk.length ≤ 4 * kMaximumLineBytes := by
  have hboth := h chunks.length (by simp)
  simpa using hboth

theorem splitOn_unfinished (buffer bytes : Bytes) :
    splitOn lf (buffer ++ bytes) =
      completeLines buffer ++ splitOn lf (unfinished buffer ++ bytes) :=
  splitOn_append_last lf buffer bytes

theorem completeLines_append (buffer bytes : Bytes) :
    completeLines (buffer ++ bytes) =
      completeLines buffer ++ completeLines (unfinished buffer ++ bytes) := by
  rw [completeLines, splitOn_unfinished, List.dropLast_append_of_ne_nil (splitOn_ne_nil _ _)]
  rfl

theorem unfinished_append (buffer bytes : Bytes) :
    unfinished (buffer ++ bytes) = unfinished (unfinished buffer ++ bytes) := by
  rw [unfinished, splitOn_unfinished, List.getLast?_append_of_ne_nil _ (splitOn_ne_nil _ _)]
  rfl

theorem ownLines_append (buffer bytes : Bytes) :
    ownLines (buffer ++ bytes) = ownLines buffer ++ ownLines (unfinished buffer ++ bytes) := by
  rw [ownLines, completeLines_append, List.map_append, List.filter_append]
  rfl

/-- What the chunks leave. -/
def keptBehind : Bytes → List Bytes → Bytes
  | pending, [] => pending
  | pending, chunk :: chunks => keptBehind (keptAfter (keptBefore pending chunk ++ chunk)) chunks

theorem linesRead_append (pending : Bytes) (chunks chunks' : List Bytes) :
    linesRead pending (chunks ++ chunks') =
      linesRead pending chunks ++ linesRead (keptBehind pending chunks) chunks' := by
  induction chunks generalizing pending with
  | nil => rfl
  | cons chunk chunks ih =>
    simp only [List.cons_append, linesRead, keptBehind, ih, List.append_assoc]

theorem keptBehind_append (pending : Bytes) (chunks chunks' : List Bytes) :
    keptBehind pending (chunks ++ chunks') = keptBehind (keptBehind pending chunks) chunks' := by
  induction chunks generalizing pending with
  | nil => rfl
  | cons chunk chunks ih => exact ih _

/-- **Where nothing is dropped, the lines read are the stream's own.** -/
theorem linesRead_eq {chunks : List Bytes} (h : NothingDropped chunks) :
    linesRead [] chunks = ownLines chunks.flatten ∧
      keptBehind [] chunks = keptAfter chunks.flatten := by
  induction chunks using List.reverseRecOn with
  | nil => exact ⟨rfl, rfl⟩
  | append_singleton chunks chunk ih =>
    obtain ⟨hlines, hkept⟩ := ih h.left
    obtain ⟨hshort, hroom⟩ := h.last
    have hpending : keptBehind [] chunks = unfinished chunks.flatten := by
      rw [hkept, keptAfter, if_neg (by omega)]
    have hbuffer : keptBefore (unfinished chunks.flatten) chunk ++ chunk =
        unfinished chunks.flatten ++ chunk := by
      rw [keptBefore, if_neg (by omega)]
    constructor
    · rw [linesRead_append, hpending, hlines]
      simp only [linesRead, hbuffer, List.append_nil, List.flatten_append, List.flatten_singleton]
      exact (ownLines_append ..).symm
    · rw [keptBehind_append, hpending]
      simp only [keptBehind, hbuffer, keptAfter, List.flatten_append, List.flatten_singleton,
        ← unfinished_append]

/-- **The cuts do not matter** as long as they drop nothing: fed in either of two ways, with one
observation time and one freshness, a parser between two lines comes to one session, and the lines
it interprets are the stream's own lines. -/
theorem chunking_irrelevant {stream : Bytes} {chunks chunks' : List Bytes}
    (hcut : Cutting stream chunks) (hcut' : Cutting stream chunks')
    (hkeep : NothingDropped chunks) (hkeep' : NothingDropped chunks')
    (current : Option GameLogSession) (stats : GameLogParserStats) (observedAtNs : ℕ)
    (measurementsCurrent : Bool) :
    (GameLogSessionParser.feedAll ⟨[], current, stats⟩ chunks observedAtNs
        measurementsCurrent).current =
      (GameLogSessionParser.feedAll ⟨[], current, stats⟩ chunks' observedAtNs
        measurementsCurrent).current ∧
      linesRead [] chunks = ownLines stream ∧ linesRead [] chunks' = ownLines stream := by
  have hlines : linesRead [] chunks = ownLines stream := by
    rw [(linesRead_eq hkeep).1, hcut.flatten]
  have hlines' : linesRead [] chunks' = ownLines stream := by
    rw [(linesRead_eq hkeep').1, hcut'.flatten]
  refine ⟨?_, hlines, hlines'⟩
  have hnil {c : List Bytes} (hc : Cutting stream c) : c = [] ↔ stream = [] := by
    constructor
    · rintro rfl
      exact hc.flatten.symm
    · intro hstream
      cases c with
      | nil => rfl
      | cons chunk rest =>
        have hflat := hc.flatten
        rw [hstream, List.flatten_cons, List.append_eq_nil_iff] at hflat
        exact absurd hflat.1 (hc.nonempty chunk List.mem_cons_self)
  by_cases hstream : stream = []
  · rw [(hnil hcut).mpr hstream, (hnil hcut').mpr hstream]
  · have hne := mt (hnil hcut).mp hstream
    have hne' := mt (hnil hcut').mp hstream
    rw [← freshly_feedAll hcut hne, ← freshly_feedAll hcut' hne', feedAll_current hcut,
      feedAll_current hcut']
    simp only [hlines, hlines']

/-- A loaded map, in the middle of its line and whole. -/
theorem chunking_irrelevant_outpost :
    (GameLogSessionParser.feedAll ⟨[], none, {}⟩
        [ascii "Log: LoadMap: KF-Out", ascii "post\r\n"] 7 false).current =
      (GameLogSessionParser.feedAll ⟨[], none, {}⟩
        [ascii "Log: LoadMap: KF-Outpost\r\n"] 7 false).current ∧
      linesRead [] [ascii "Log: LoadMap: KF-Out", ascii "post\r\n"] =
        ownLines (ascii "Log: LoadMap: KF-Outpost\r\n") ∧
      linesRead [] [ascii "Log: LoadMap: KF-Outpost\r\n"] =
        ownLines (ascii "Log: LoadMap: KF-Outpost\r\n") :=
  chunking_irrelevant ⟨by decide, by decide, by decide⟩ ⟨by decide, by decide, by decide⟩
    (by decide +kernel) (by decide +kernel) none {} 7 false

/-! ## 7. Where the cuts matter -/

/-- The line of a loaded map. -/
def outpostLine : Bytes := ascii "Log: LoadMap: KF-Outpost"

/-- Bytes that are no line feed. -/
def filler (n : ℕ) : Bytes := List.replicate n 0x78

/-- The map's line begins behind filler in its own line, where the stream is cut. -/
def overlongCut (n : ℕ) : List Bytes := [filler n, outpostLine ++ [lf]]

/-- The map's line is cut, and filler follows it in the chunk. -/
def overfullCut (n : ℕ) : List Bytes :=
  [outpostLine.take 20, outpostLine.drop 20 ++ lf :: filler n]

/-- The same stream, cut behind the map's line. -/
def wholeCut (n : ℕ) : List Bytes := [outpostLine ++ [lf], filler n]

theorem lf_not_mem_filler (n : ℕ) : lf ∉ filler n := by
  intro hmem
  exact absurd (List.eq_of_mem_replicate hmem) (by decide)

theorem length_filler (n : ℕ) : (filler n).length = n := List.length_replicate

/-- A line and what follows it. -/
theorem ownLines_line {line rest : Bytes} (hline : lf ∉ line) (hrest : lf ∉ rest) :
    ownLines (line ++ lf :: rest) = [stripCr line].filter fits ∧
      unfinished (line ++ lf :: rest) = rest := by
  have hsplit : splitOn lf (line ++ lf :: rest) = [line, rest] := by
    rw [splitOn_append hline, splitOn_of_not_mem hrest]
  constructor
  · simp [ownLines, completeLines, hsplit]
  · simp [unfinished, hsplit]

theorem ownLines_unfinished {rest : Bytes} (hrest : lf ∉ rest) :
    ownLines rest = [] ∧ unfinished rest = rest := by
  have hsplit := splitOn_of_not_mem hrest
  constructor
  · simp [ownLines, completeLines, hsplit]
  · simp [unfinished, hsplit]

theorem cutting_overlong {n : ℕ} (hn : 0 < n) (hlen : n ≤ 4 * kMaximumLineBytes) :
    Cutting (filler n ++ outpostLine ++ [lf]) (overlongCut n) := by
  have hfiller : filler n ≠ [] := by
    intro h
    have hlength := length_filler n
    rw [h, List.length_nil] at hlength
    omega
  constructor
  · simp [overlongCut]
  · simp [overlongCut, hfiller, outpostLine]
  · simp only [overlongCut, List.forall_mem_cons, length_filler]
    exact ⟨hlen, by decide, by simp⟩

/-- Cut behind the filler, the over-long line is dropped and its tail is a line. -/
theorem linesRead_overlong {n : ℕ} (hn : kMaximumLineBytes < n) :
    linesRead [] (overlongCut n) = [outpostLine] := by
  obtain ⟨hlines, hrest⟩ := ownLines_unfinished (lf_not_mem_filler n)
  have hbefore : keptBefore [] (filler n) = [] := by
    unfold keptBefore
    split <;> rfl
  have hafter : keptAfter (filler n) = [] := by
    rw [keptAfter, hrest, length_filler, if_pos hn]
  have hlast : ownLines (outpostLine ++ [lf]) = [outpostLine] := by decide +kernel
  have hroom : keptBefore [] (outpostLine ++ [lf]) = [] := by decide
  simp only [overlongCut, linesRead, hbefore, List.nil_append, hlines, hafter, hroom, hlast,
    List.append_nil]

/-- Uncut, it is dropped whole. -/
theorem linesRead_uncut {n : ℕ} (hn : kMaximumLineBytes < n) :
    linesRead [] [filler n ++ outpostLine ++ [lf]] = [] := by
  have hbefore : keptBefore [] (filler n ++ outpostLine ++ [lf]) = [] := by
    unfold keptBefore
    split <;> rfl
  have hlf : lf ∉ filler n ++ outpostLine := by
    rw [List.mem_append, not_or]
    exact ⟨lf_not_mem_filler n, by decide⟩
  have hcr : cr ∉ filler n ++ outpostLine := by
    rw [List.mem_append, not_or]
    exact ⟨fun h => absurd (List.eq_of_mem_replicate h) (by decide), by decide⟩
  have hfits : fits (filler n ++ outpostLine) = false := by
    rw [fits, decide_eq_false_iff_not, List.length_append, length_filler]
    omega
  have hnil : lf ∉ ([] : Bytes) := List.not_mem_nil
  have hown := (ownLines_line hlf hnil).1
  rw [stripCr_of_not_mem hcr] at hown
  simp only [linesRead, hbefore, List.nil_append, List.append_nil, hown, List.filter_cons, hfits,
    Bool.false_eq_true, if_false, List.filter_nil]

theorem cutting_whole {n : ℕ} (hn : 0 < n) (hlen : n ≤ 4 * kMaximumLineBytes) :
    Cutting (outpostLine ++ lf :: filler n) (wholeCut n) := by
  have hfiller : filler n ≠ [] := by
    intro h
    have hlength := length_filler n
    rw [h, List.length_nil] at hlength
    omega
  constructor
  · simp [wholeCut]
  · simp [wholeCut, hfiller, outpostLine]
  · simp only [wholeCut, List.forall_mem_cons, length_filler]
    exact ⟨by decide, hlen, by simp⟩

theorem cutting_overfull {n : ℕ} (hlen : 5 + n ≤ 4 * kMaximumLineBytes) :
    Cutting (outpostLine ++ lf :: filler n) (overfullCut n) := by
  constructor
  · have hline : outpostLine.take 20 ++ outpostLine.drop 20 = outpostLine :=
      List.take_append_drop ..
    simp only [overfullCut, List.flatten_cons, List.flatten_nil, List.append_nil]
    rw [← List.append_assoc, hline]
  · simp only [overfullCut, List.forall_mem_cons]
    exact ⟨by decide, by simp, by simp⟩
  · have hdrop : (outpostLine.drop 20).length = 4 := by decide
    simp only [overfullCut, List.forall_mem_cons, List.length_append, List.length_cons,
      length_filler, hdrop]
    exact ⟨by decide, by omega, by simp⟩

/-- The line that is cut where the buffer overflows loses its beginning. -/
theorem linesRead_overfull {n : ℕ} (hn : 4 * kMaximumLineBytes < 25 + n) :
    linesRead [] (overfullCut n) = [outpostLine.drop 20] := by
  have hfirst : keptBefore [] (outpostLine.take 20) = [] ∧
      ownLines (outpostLine.take 20) = [] ∧
      keptAfter (outpostLine.take 20) = outpostLine.take 20 := by decide +kernel
  have htake : (outpostLine.take 20).length = 20 := by decide
  have hdrop : (outpostLine.drop 20).length = 4 := by decide
  have hsecond : keptBefore (outpostLine.take 20) (outpostLine.drop 20 ++ lf :: filler n) = [] := by
    rw [keptBefore, if_pos]
    rw [List.length_append, List.length_cons, length_filler, htake, hdrop]
    omega
  have hlines : ownLines (outpostLine.drop 20 ++ lf :: filler n) =
      [stripCr (outpostLine.drop 20)].filter fits :=
    (ownLines_line (by decide) (lf_not_mem_filler n)).1
  have htail : [stripCr (outpostLine.drop 20)].filter fits = [outpostLine.drop 20] := by
    decide +kernel
  simp only [overfullCut, linesRead, hfirst.1, hfirst.2.1, hfirst.2.2, List.nil_append, hsecond,
    hlines, htail, List.append_nil]

theorem linesRead_whole (n : ℕ) : linesRead [] (wholeCut n) = [outpostLine] := by
  have hfirst : keptBefore [] (outpostLine ++ [lf]) = [] ∧
      ownLines (outpostLine ++ [lf]) = [outpostLine] ∧
      keptAfter (outpostLine ++ [lf]) = [] := by decide +kernel
  have hsecond : keptBefore [] (filler n) = [] := by
    unfold keptBefore
    split <;> rfl
  simp only [wholeCut, linesRead, hfirst.1, hfirst.2.1, hfirst.2.2, List.nil_append, hsecond,
    (ownLines_unfinished (lf_not_mem_filler n)).1, List.append_nil]

/-- The session of the lines read, when the measurements are fresh. -/
theorem feedAll_lines {stream : Bytes} {chunks lines : List Bytes} (hcut : Cutting stream chunks)
    (hlines : linesRead [] chunks = lines) :
    (GameLogSessionParser.feedAll {} chunks 0 true).current = sessionAfter 0 lines none := by
  have hcurrent := feedAll_current hcut {} 0 true
  rw [hlines] at hcurrent
  exact hcurrent

/-- **Where a bound drops bytes, the cuts matter.**  The tail of an over-long line is read as a
line of its own behind the cut; and so is the rest of a line, no longer than others, whose
beginning does not fit into the buffer with the next chunk. -/
theorem chunking_matters :
    (Cutting (filler 16385 ++ outpostLine ++ [lf]) (overlongCut 16385) ∧
      Cutting (filler 16385 ++ outpostLine ++ [lf]) [filler 16385 ++ outpostLine ++ [lf]] ∧
      (GameLogSessionParser.feedAll {} (overlongCut 16385) 0 true).current ≠
        (GameLogSessionParser.feedAll {} [filler 16385 ++ outpostLine ++ [lf]] 0 true).current) ∧
    (Cutting (outpostLine ++ lf :: filler 65531) (overfullCut 65531) ∧
      Cutting (outpostLine ++ lf :: filler 65531) (wholeCut 65531) ∧
      (GameLogSessionParser.feedAll {} (overfullCut 65531) 0 true).current ≠
        (GameLogSessionParser.feedAll {} (wholeCut 65531) 0 true).current) := by
  have hbound : kMaximumLineBytes = 16384 := rfl
  have hline : sessionAfter 0 [outpostLine] none ≠ none := by decide +kernel
  have htail : sessionAfter 0 [outpostLine.drop 20] none = none := by decide +kernel
  have huncut : Cutting (filler 16385 ++ outpostLine ++ [lf])
      [filler 16385 ++ outpostLine ++ [lf]] := by
    constructor
    · simp
    · simp
    · intro chunk hchunk
      rw [List.mem_singleton.mp hchunk, List.length_append, List.length_append, length_filler]
      decide
  refine ⟨⟨cutting_overlong (by omega) (by omega), huncut, ?_⟩,
    cutting_overfull (by omega), cutting_whole (by omega) (by omega), ?_⟩
  · rw [feedAll_lines (cutting_overlong (by omega) (by omega)) (linesRead_overlong (by omega)),
      feedAll_lines huncut (linesRead_uncut (by omega))]
    exact hline
  · rw [feedAll_lines (cutting_overfull (by omega)) (linesRead_overfull (by omega)),
      feedAll_lines (cutting_whole (by omega) (by omega)) (linesRead_whole _), htail]
    exact hline.symm

end Kf2Optimizer.Game
